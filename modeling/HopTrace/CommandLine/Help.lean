import HopTrace.CommandLine.Arguments
import HopTrace.Text.Column

/-!
# Help

The help of the program, built from the same table that options are read by. Each option
stands on a line of its own with its purpose below it. The brief help is compact and names
the values that a choice is made from; the full help parts the options by blank lines and
says what each of these values is for.
-/
namespace HopTrace

def LogFormat.purpose : LogFormat → String
  | .compact => "Display log data in a compact format"
  | .pretty => "Display log data in a pretty format"
  | .json => "Display log data in a json format"

def LogSpanEvents.purpose : LogSpanEvents → String
  | .off => "Do not display event spans"
  | .active => "Display enter and exit event spans"
  | .full => "Display all event spans"

namespace CommandLine

/-- How the program is called. -/
def usage (program : String) : String :=
  "Usage: " ++ ControlSequence.stripWritten program ++ " [OPTIONS] [DESTINATION]"

/-- The values of a choice with their purposes. There are none for other options. -/
def Opt.choices : Opt → List (String × String)
  | .setting .logFormat => LogFormat.choices.map fun (name, c) => (name, c.purpose)
  | .setting .logSpanEvents => LogSpanEvents.choices.map fun (name, c) => (name, c.purpose)
  | _ => []

/-- The forms of an option, the short one first. -/
def Form.heading (f : Form) : String :=
  let short := match f.short with
    | some c => "-" ++ String.singleton c
    | none => "  "
  let long := match f.short, f.long with
    | _, none => ""
    | some _, some name => ", --" ++ name
    | none, some name => "  --" ++ name
  let value := match f.value with
    | some value => " <" ++ value ++ ">"
    | none => ""
  short ++ long ++ value

/-- What an option is for. Each help tells how to get the other one. -/
def Form.purpose (f : Form) (style : HelpStyle) : String :=
  match f.option, style with
  | .switch .help, .brief => f.about ++ " (see more with '--help')"
  | .switch .help, .full => f.about ++ " (see a summary with '-h')"
  | _, _ => f.about

def indented (line : String) : String := Column.blanks 10 ++ line

/-- One line for each value of a choice, their purposes below one another. -/
def choiceLines (choices : List (String × String)) : List String :=
  let width := choices.foldl (fun n (name, _) => max n name.length) 0
  choices.map fun (name, purpose) => "- " ++ Column.alignLeft (width + 2) (name ++ ":") ++ purpose

/-- The lines about an option. -/
def Form.lines (f : Form) (style : HelpStyle) : List String :=
  let choices := f.option.choices
  let purpose := match style with
    | .brief =>
      if choices.isEmpty then [f.purpose style]
      else
        [f.purpose style ++ " [possible values: " ++ ", ".intercalate (choices.map Prod.fst) ++ "]"]
    | .full =>
      if choices.isEmpty then [f.purpose style]
      else [f.purpose style, "", "Possible values:"] ++ choiceLines choices
  ("  " ++ f.heading) :: purpose.map fun (line : String) => if line.isEmpty then line else indented line

def destinationPurpose : String := "The hostname or IP to trace, optionally followed by `/port`"

def destinationLines : HelpStyle → List String
  | .brief => ["  [DESTINATION]  " ++ destinationPurpose]
  | .full => ["  [DESTINATION]", indented destinationPurpose]

def helpText (program : String) (style : HelpStyle) : String :=
  let parting := match style with
    | .brief => []
    | .full => [""]
  let lines :=
    [about, "", usage program, "", "Arguments:"] ++ destinationLines style ++ ["", "Options:"] ++
      parting.intercalate (forms.map (·.lines style))
  "\n".intercalate lines ++ "\n"

/-- Everything that is written of a usage error of a program with the given name. -/
def UsageError.text (program : String) : UsageError → String
  | .help style => helpText program style
  | .nothingGiven => helpText program .brief
  | e => e.describe ControlSequence.stripWritten ++ "\n\n" ++ usage program ++
    "\n\nFor more information, try '--help'.\n"

end CommandLine

end HopTrace
