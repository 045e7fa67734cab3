import HopTrace.Config.Layers
import HopTrace.Errno

/-!
# Finding the configuration file

A file named on the command line is the only one that is read. Otherwise the first file
that exists is read: in the current directory, then in the home directory, in the
configuration directory and in the directory of the program below that, each time under
two names. What is wrong with that file is reported, and no later one is tried. The base
directories are needed only when the current directory has no file. Without any file the
defaults hold.
-/
namespace HopTrace

/-- What is found under a path. -/
inductive FileState where
  | absent (cause : Errno)
  /-- It is there but cannot be opened. -/
  | closed (cause : Errno)
  /-- It can be opened but not read, as a directory. -/
  | unreadable (cause : Errno)
  /-- It can be read but is no text. -/
  | binary
  | text (content : String)
  deriving DecidableEq, Repr

namespace FileState

def isPresent : FileState → Bool
  | .absent _ => false
  | _ => true

def ofBytes (content : List UInt8) : FileState :=
  match String.fromUTF8? ⟨content.toArray⟩ with
  | some decoded => .text decoded
  | none => .binary

end FileState

def joinPath (directory name : String) : String :=
  if directory.isEmpty || directory.endsWith "/" then directory ++ name
  else directory ++ "/" ++ name

/-- The directories of a user. -/
structure BaseDirectories where
  home : String
  config : String
  deriving DecidableEq, Repr

/-- The directories that two variables name. A configuration directory that is not
absolute is ignored, and without a home there is none. -/
def BaseDirectories.ofVariables (home configHome : Option String) : Option BaseDirectories :=
  home.map fun home =>
    { home
      config := (configHome.filter (·.startsWith "/")).getD (joinPath home ".config") }

/-- Where configuration is looked for. -/
structure ConfigSources where
  file : String → FileState
  directories : Option BaseDirectories

/-- Why a file cannot be opened. -/
inductive OpenFailure where
  | refused (cause : Errno)
  /-- No file has a NUL character in its path. -/
  | nulCharacter
  deriving DecidableEq, Repr

def OpenFailure.message : OpenFailure → String
  | .refused cause => cause.message
  | .nulCharacter => "file name contained an unexpected NUL byte"

inductive ConfigFault where
  | cannotOpen (path : String) (cause : OpenFailure)
  | cannotRead (cause : Errno)
  | notText
  | document (fault : Toml.Fault) (line column : Nat)
  | noHome
  | destination (fault : DestinationFault)
  deriving DecidableEq, Repr

/-- The messages of a fault, each but the first the cause of the one before it. -/
def ConfigFault.chain : ConfigFault → List String
  | .cannotOpen path cause => ["config file not found: " ++ path, cause.message]
  | .cannotRead cause => [cause.message]
  | .notText => ["stream did not contain valid UTF-8"]
  | .document fault line column =>
    let place := "TOML parse error at line " ++ toString line ++ ", column " ++ toString column
    [place ++ ((fault.message?.map ("\n" ++ ·)).getD "")]
  | .noHome => ["could not locate home directory"]
  | .destination fault => [fault.message]

def ConfigFile.ofText (text : String) : Except ConfigFault ConfigFile :=
  match ConfigFile.parse text with
  | .ok file => .ok file
  | .error e =>
    let (line, column) := Toml.lineColumn text.toList e.offset
    .error (.document e.fault line column)

/-- The names of a configuration file, in a directory. -/
def candidatesIn (directory : String) : List String :=
  ["tracepath.toml", ".tracepath.toml"].map (joinPath directory)

/-- Where to look when the current directory has no file. -/
def BaseDirectories.candidates (d : BaseDirectories) : List String :=
  [d.home, d.config, joinPath d.config "tracepath"].flatMap candidatesIn

namespace ConfigSources

/-- The configuration in a file that must be there. -/
def read (sources : ConfigSources) (path : String) : Except ConfigFault ConfigFile :=
  if path.toList.contains (Char.ofNat 0) then .error (.cannotOpen path .nulCharacter)
  else
    match sources.file path with
    | .absent cause | .closed cause => .error (.cannotOpen path (.refused cause))
    | .unreadable cause => .error (.cannotRead cause)
    | .binary => .error .notText
    | .text content => ConfigFile.ofText content

/-- The configuration in the first file that exists. -/
def readFirst (sources : ConfigSources) (paths : List String) :
    Except ConfigFault (Option ConfigFile) :=
  match paths.find? fun path => (sources.file path).isPresent with
  | none => .ok none
  | some path => some <$> sources.read path

def search (sources : ConfigSources) : Except ConfigFault (Option ConfigFile) := do
  match ← sources.readFirst (candidatesIn "") with
  | some file => return some file
  | none =>
    match sources.directories with
    | none => throw .noHome
    | some directories => sources.readFirst directories.candidates

/-- The configuration that a command line asks for. -/
def configFile (sources : ConfigSources) (a : CommandLine.Arguments) :
    Except ConfigFault ConfigFile :=
  match a.configFile with
  | some path => sources.read path
  | none => do return (← sources.search).getD ConfigFile.default

def settings (sources : ConfigSources) (a : CommandLine.Arguments) :
    Except ConfigFault Settings := do
  let file ← sources.configFile a
  match Settings.ofLayers a file with
  | .ok s => return s
  | .error fault => throw (.destination fault)

end ConfigSources

end HopTrace
