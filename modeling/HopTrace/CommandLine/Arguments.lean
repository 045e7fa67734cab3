import HopTrace.CommandLine.Option
import HopTrace.Config.Settings
import HopTrace.Text.ControlSequence
import HopTrace.Text.Decimal

/-!
# Reading the command line

The words of the command line are read one after another. A word may be a long option, a
row of short ones, the value an earlier setting waits for, or the destination; after `--`
every word is the destination. A value written in the same word as its setting is judged
at once. A value in a word of its own is kept and judged when the next option or
destination is met, or at the end, so that an unknown option in between is reported first.

No option may be given twice, and a destination must be given unless only the version is
asked for. A command line without any option or destination asks for help.
-/
namespace HopTrace.CommandLine

inductive UsageError where
  | help (style : HelpStyle)
  | nothingGiven
  | unexpectedArgument (word : String)
  | valueRequired (setting : Setting)
  | notAChoice (setting : Setting) (value : String)
  | malformed (setting : Setting) (value reason : String)
  | repeated (option : Opt)
  | unexpectedValue (value : String) (switch : Switch)
  | missingDestination
  | familyConflict
  deriving DecidableEq, Repr

/-- What the program is for. -/
def about : String := "Discover the path MTU and per hop latency toward a destination"

namespace UsageError

/-- What is wrong, given how to show what was typed. It may take several lines if what was
typed does. -/
def describe (shown : String → String) : UsageError → String
  | .help _ | .nothingGiven => about
  | .unexpectedArgument word => "error: unexpected argument '" ++ shown word ++ "' found"
  | .valueRequired s =>
    "error: a value is required for '" ++ s.text ++ "' but none was supplied"
  | .notAChoice s value => "error: invalid value '" ++ shown value ++ "' for '" ++ s.text ++ "'"
  | .malformed s value reason =>
    "error: invalid value '" ++ shown value ++ "' for '" ++ s.text ++ "': " ++ reason
  | .repeated o => "error: the argument '" ++ o.text ++ "' cannot be used multiple times"
  | .unexpectedValue value s =>
    "error: unexpected value '" ++ shown value ++ "' for '" ++ s.text ++
      "' found; no more were expected"
  | .missingDestination => "error: the following required arguments were not provided:"
  | .familyConflict => "error: Only one -4 or -6 option may be specified"

/-- The message, without control sequences. -/
def message (e : UsageError) : String := e.describe ControlSequence.strip

/-- Asking for help is no mistake. -/
def exitCode : UsageError → Nat
  | .help _ => 0
  | _ => 2

end UsageError

structure Arguments where
  destination : Option String := none
  configFile : Option String := none
  ipv4 : Bool := false
  ipv6 : Bool := false
  numeric : Bool := false
  both : Bool := false
  packetLength : Option UInt32 := none
  maxHops : Option UInt8 := none
  port : Option UInt16 := none
  version : Bool := false
  logFormat : Option LogFormat := none
  logFilter : Option String := none
  logSpanEvents : Option LogSpanEvents := none
  verbose : Bool := false
  deriving DecidableEq, Repr

/-- A setting that waits for its value, or whose value waits to be judged. -/
structure Pending where
  setting : Setting
  value : Option String
  deriving DecidableEq, Repr

structure Reading where
  arguments : Arguments
  used : List Opt
  pending : Option Pending
  /-- Whether `--` has been met. -/
  literal : Bool
  deriving DecidableEq, Repr

def Reading.start : Reading := ⟨{}, [], none, false⟩

abbrev Judged := Except UsageError

/-- A number of at most `high`. -/
def boundedValue (s : Setting) (high : Nat) (value : String) : Judged Nat :=
  match Decimal.readInt64 value with
  | .error fault => .error (.malformed s value fault.message)
  | .ok n =>
    if 0 ≤ n ∧ n ≤ high then .ok n.toNat
    else .error (.malformed s value (toString n ++ " is not in 0..=" ++ toString high))

def choiceValue {α : Type} (s : Setting) (choices : List (String × α)) (value : String) :
    Judged α :=
  match choices.lookup value with
  | some a => .ok a
  | none => .error (if value.isEmpty then .valueRequired s else .notAChoice s value)

def Arguments.set (a : Arguments) (s : Setting) (value : String) : Judged Arguments :=
  match s with
  | .configFile => .ok { a with configFile := some value }
  | .packetLength => do
    return { a with packetLength := some (UInt32.ofNat (← boundedValue s 4294967295 value)) }
  | .maxHops => do return { a with maxHops := some (UInt8.ofNat (← boundedValue s 255 value)) }
  | .port => do return { a with port := some (UInt16.ofNat (← boundedValue s 65535 value)) }
  | .logFormat => do return { a with logFormat := some (← choiceValue s LogFormat.choices value) }
  | .logFilter => .ok { a with logFilter := some value }
  | .logSpanEvents => do
    return { a with logSpanEvents := some (← choiceValue s LogSpanEvents.choices value) }

/-- Asking for help ends the reading, and is answered in the given style. -/
def Arguments.turnOn (a : Arguments) (s : Switch) (style : HelpStyle) : Judged Arguments :=
  match s with
  | .ipv4 => .ok { a with ipv4 := true }
  | .ipv6 => .ok { a with ipv6 := true }
  | .numeric => .ok { a with numeric := true }
  | .both => .ok { a with both := true }
  | .version => .ok { a with version := true }
  | .verbose => .ok { a with verbose := true }
  | .help => .error (.help style)

namespace Reading

/-- An option may be used once. -/
def use (r : Reading) (o : Opt) : Judged Reading :=
  if o ∈ r.used then .error (.repeated o) else .ok { r with used := o :: r.used }

/-- Judges the value of a setting. -/
def assign (r : Reading) (s : Setting) (value : String) : Judged Reading := do
  let r ← r.use (.setting s)
  return { r with arguments := ← r.arguments.set s value }

/-- Judges whatever is pending. -/
def settle (r : Reading) : Judged Reading :=
  match r.pending with
  | none => .ok r
  | some ⟨s, none⟩ => .error (.valueRequired s)
  | some ⟨s, some value⟩ => { r with pending := none }.assign s value

def turnOn (r : Reading) (s : Switch) (style : HelpStyle) : Judged Reading := do
  let r ← r.settle
  let r ← r.use (.switch s)
  return { r with arguments := ← r.arguments.turnOn s style }

/-- A setting is met, with its value if that is in the same word. -/
def begin (r : Reading) (s : Setting) (attached : Option String) : Judged Reading := do
  let r ← r.settle
  match attached with
  | some value => r.assign s value
  | none => return { r with pending := some ⟨s, none⟩ }

/-- A row of short options. The rest of a row after a setting is its value, less one equals
sign in front. -/
def shortRow (r : Reading) : List Char → Judged Reading
  | [] => .ok r
  | c :: rest =>
    match ofShort? c with
    | none => .error (.unexpectedArgument (String.ofList ['-', c]))
    | some (.switch s) => do (← r.turnOn s .brief).shortRow rest
    | some (.setting s) =>
      r.begin s <| match rest with
        | [] => none
        | '=' :: value => some (String.ofList value)
        | value => some (String.ofList value)

/-- A long option, split at its first equals sign. -/
def longOption (r : Reading) (word : List Char) : Judged Reading :=
  let name := String.ofList (word.takeWhile (· ≠ '='))
  let attached := match word.dropWhile (· ≠ '=') with
    | [] => none
    | _ :: value => some (String.ofList value)
  match ofLong? name, attached with
  | none, _ => .error (.unexpectedArgument ("--" ++ name))
  | some (.switch s), some value => .error (.unexpectedValue value s)
  | some (.switch s), none => r.turnOn s .full
  | some (.setting s), _ => r.begin s attached

/-- One destination is enough. -/
def positional (r : Reading) (word : String) : Judged Reading :=
  if r.arguments.destination.isSome then .error (.unexpectedArgument word)
  else do
    let r ← r.settle
    return { r with arguments := { r.arguments with destination := some word } }

/-- A word that is no option: the value that is waited for, or else the destination. -/
def plain (r : Reading) (word : String) : Judged Reading :=
  match r.pending with
  | some ⟨s, none⟩ => .ok { r with pending := some ⟨s, some word⟩ }
  | _ => r.positional word

def word (r : Reading) (w : String) : Judged Reading :=
  if r.literal then r.positional w
  else match w.toList with
    | ['-', '-'] => .ok { r with literal := true }
    | '-' :: '-' :: rest => r.longOption rest
    | ['-'] => r.plain w
    | '-' :: rest => r.shortRow rest
    | _ => r.plain w

def finish (r : Reading) : Judged Arguments := do
  let r ← r.settle
  if r.used.isEmpty ∧ r.arguments.destination.isNone then throw .nothingGiven
  if r.arguments.destination.isNone ∧ ¬ r.arguments.version then throw .missingDestination
  return r.arguments

end Reading

namespace Arguments

/-- The arguments that the words after the program's name spell. -/
def read (words : List String) : Judged Arguments := do
  (← words.foldlM Reading.word Reading.start).finish

/-- A path is bytes. Those of a text spell it in UTF-8. -/
def pathOf (text : String) : List UInt8 := text.toUTF8.data.toList

/-- The text that a path spells, if it spells one. -/
def textOf? (path : List UInt8) : Option String := String.fromUTF8? ⟨path.toArray⟩

def slash : UInt8 := 47

def dot : UInt8 := 46

/-- The last component of a path: slashes and single dots at the end do not count, and a
path that ends in a double dot has none. -/
def fileName (path : List UInt8) : Option (List UInt8) :=
  ((path.splitOn slash).filter fun part => part ≠ [] ∧ part ≠ [dot]).getLast?.filter
    fun name => name ≠ [dot, dot]

/-- The version implied by the last character of the program's name, if that is a text. -/
def versionOfPath (path : List UInt8) : Option IpVersion :=
  match ((fileName path).bind textOf?).bind (·.toList.getLast?) with
  | some '4' => some .v4
  | some '6' => some .v6
  | _ => none

/-- The path of the program asks for a version of the protocol as an option does. -/
def withProgram (a : Arguments) (program : Option (List UInt8)) : Judged Arguments :=
  let implied := program.bind versionOfPath
  let ipv4 := a.ipv4 || implied = some .v4
  let ipv6 := a.ipv6 || implied = some .v6
  if ipv4 && ipv6 then .error .familyConflict else .ok { a with ipv4, ipv6 }

/-- The version implied by a program whose path is a text. -/
def impliedVersion (program : Option String) : Option IpVersion :=
  (program.map pathOf).bind versionOfPath

def withProgramName (a : Arguments) (program : Option String) : Judged Arguments :=
  a.withProgram (program.map pathOf)

/-- What the program is called in a command line. -/
def programName (argv : List String) : String :=
  (((argv.head?.map pathOf).bind fileName).bind textOf?).getD "tracepath"

/-- The arguments of a whole command line, the program's name first. -/
def ofCommandLine (argv : List String) : Judged Arguments := do
  (← read argv.tail).withProgramName argv.head?

end Arguments

end HopTrace.CommandLine
