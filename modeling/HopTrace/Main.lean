import HopTrace.Offline
import HopTrace.Program

/-!
# The command line

Everything the program needs from outside is read first: its own path, two variables and
the files that may hold its configuration. What it does with them is `Host.runProgram`.
The host is one without a network, since extended errors cannot be read from here.
-/
namespace HopTrace

/-- A file that could not be read. -/
def FileState.ofError : IO.Error → FileState
  | .noFileOrDirectory .. => .absent Errno.notFound
  | .inappropriateType _ code _ =>
    if code.toInt32 = Errno.isDirectory then .unreadable Errno.isDirectory
    else .absent Errno.notDirectory
  | .permissionDenied .. => .closed Errno.accessDenied
  | _ => .unreadable 5

def readState (path : String) : IO FileState := do
  try return .ofBytes (← IO.FS.readBinFile path).toList
  catch e => return .ofError e

/-- The files that may be asked for. -/
def consulted (argv : List String) (directories : Option BaseDirectories) : List String :=
  match CommandLine.Arguments.ofCommandLine argv with
  | .ok { configFile := some path, .. } => [path]
  | _ => candidatesIn "" ++ (directories.map (·.candidates)).getD []

end HopTrace

open HopTrace

def main (words : List String) : IO UInt32 := do
  let argv := (← IO.appPath).toString :: words
  let directories :=
    BaseDirectories.ofVariables (← IO.getEnv "HOME") (← IO.getEnv "XDG_CONFIG_HOME")
  let states ← (consulted argv directories).mapM fun path => return (path, ← readState path)
  let file (path : String) := (states.lookup path).getD (.absent Errno.notFound)
  let exit := (Offline.host (Instant.ofParts 0 0)).runProgram ⟨file, directories⟩ argv ()
  IO.print exit.output.out
  IO.eprint exit.output.err
  return exit.status.toUInt32
