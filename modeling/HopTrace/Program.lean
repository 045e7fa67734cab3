import HopTrace.CommandLine.Help
import HopTrace.Config.LogFilter
import HopTrace.Config.Search
import HopTrace.Run

/-!
# The program

The command line decides between printing the version, which needs no configuration, and
tracing a path. The program ends with status 0 when it has done what it was asked for,
with 2 on a mistake in the command line and with 1 on any other failure. A trace that
ends without an answer, or cannot begin because of the filter of its log, has a status of
its own.
-/
namespace HopTrace

def version : String := "0.3.0"

inductive Action where
  | printVersion
  | trace (settings : Settings)
  deriving DecidableEq, Repr

/-- Why the program does not start. -/
inductive StartFault where
  | usage (error : CommandLine.UsageError)
  | config (fault : ConfigFault)
  deriving DecidableEq, Repr

def ConfigSources.action (sources : ConfigSources) (a : CommandLine.Arguments) :
    Except ConfigFault Action :=
  if a.version then .ok .printVersion else .trace <$> sources.settings a

/-- What a whole command line, the program's name first, asks for. -/
def ConfigSources.start (sources : ConfigSources) (argv : List String) :
    Except StartFault Action :=
  match CommandLine.Arguments.ofCommandLine argv with
  | .error e => .error (.usage e)
  | .ok a =>
    match sources.action a with
    | .error fault => .error (.config fault)
    | .ok action => .ok action

/-- The status a program ends with and what it has written. -/
structure Exit where
  status : Nat
  output : Report.Output
  deriving DecidableEq, Repr

namespace Exit

/-- A message and its causes, which are numbered if there are several. -/
def failureText : List String → String
  | [] => ""
  | [message] => "Error: " ++ message ++ "\n"
  | [message, cause] => "Error: " ++ message ++ "\n\nCaused by:\n    " ++ cause ++ "\n"
  | message :: causes =>
    let numbered := causes.mapIdx fun i cause => "    " ++ toString i ++ ": " ++ cause ++ "\n"
    "Error: " ++ message ++ "\n\nCaused by:\n" ++ String.join numbered

/-- A failure after some output. -/
def failed (o : Report.Output) (chain : List String) : Exit := ⟨1, o.complain (failureText chain)⟩

/-- Help is printed, and any other fault is complained of. -/
def ofStartFault (program : String) : StartFault → Exit
  | .usage (.help style) => ⟨0, Report.Output.empty.print (CommandLine.helpText program style)⟩
  | .usage e => ⟨e.exitCode, Report.Output.empty.complain (e.text program)⟩
  | .config fault => failed .empty fault.chain

/-- The status of a trace that has no answer. -/
def noAnswer : Nat := 101

def ofRun {σ : Type} : EStateM.Result RunFailure (Running σ) Unit → Exit
  | .ok () r => ⟨0, r.output⟩
  | .error (.trace .unrepresentableTime) r => ⟨noAnswer, r.output⟩
  | .error e r => failed r.output e.chain

end Exit

/-- How the filter of the log reads. The log itself is not kept. -/
def Settings.logReading (s : Settings) : LogFilter.Reading :=
  if s.verbose then LogFilter.read s.logFilter else ⟨[], true⟩

/-- Traces a path, after what is to be said about the log. -/
def Host.runTrace {σ : Type} (h : Host σ) (settings : Settings) (s : σ) : Exit :=
  let reading := settings.logReading
  let said := reading.complaints.foldl (fun o line => o.complain (line ++ "\n")) Report.Output.empty
  if reading.complete then .ofRun (h.run settings { Running.start s with output := said })
  else ⟨Exit.noAnswer, said⟩

/-- Runs the program on a host. -/
def Host.runProgram {σ : Type} (h : Host σ) (sources : ConfigSources) (argv : List String)
    (s : σ) : Exit :=
  match sources.start argv with
  | .error fault => .ofStartFault (CommandLine.Arguments.programName argv) fault
  | .ok .printVersion => ⟨0, Report.Output.empty.print ("tracepath " ++ version ++ "\n")⟩
  | .ok (.trace settings) => h.runTrace settings s

end HopTrace
