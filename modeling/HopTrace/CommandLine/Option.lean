/-!
# The options of the command line

A switch stands alone; a setting takes a value. Every option has a short form, a long
form or both, and is shown by its long form where it has one.
-/
namespace HopTrace.CommandLine

inductive Switch where
  | ipv4
  | ipv6
  | numeric
  | both
  | version
  | verbose
  | help
  deriving DecidableEq, Repr

inductive Setting where
  | configFile
  | packetLength
  | maxHops
  | port
  | logFormat
  | logFilter
  | logSpanEvents
  deriving DecidableEq, Repr

inductive Opt where
  | switch (s : Switch)
  | setting (s : Setting)
  deriving DecidableEq, Repr

/-- How much the help tells. -/
inductive HelpStyle where
  | brief
  | full
  deriving DecidableEq, Repr

/-- How an option is written and what it is for. -/
structure Form where
  option : Opt
  short : Option Char
  long : Option String
  /-- What stands for the value of a setting. -/
  value : Option String
  about : String

/-- All options in the order they are shown. -/
def forms : List Form :=
  [⟨.setting .configFile, some 'c', some "config-file", some "CONFIG_FILE", "Config file"⟩,
   ⟨.switch .ipv4, some '4', none, none, "Use IPv4 only"⟩,
   ⟨.switch .ipv6, some '6', none, none, "Use IPv6 only"⟩,
   ⟨.switch .numeric, some 'n', some "numeric", none, "Print addresses numerically"⟩,
   ⟨.switch .both, some 'b', some "both", none, "Print both hostnames and IP addresses"⟩,
   ⟨.setting .packetLength, some 'l', some "packet-length", some "PACKET_LENGTH",
    "The probe packet length [default: 65535 (IPv4) or 128000 (IPv6)]"⟩,
   ⟨.setting .maxHops, some 'm', some "max-hops", some "MAX_HOPS",
    "The maximum number of hops [default: 30]"⟩,
   ⟨.setting .port, some 'p', some "port", some "PORT",
    "The destination port of the first probe [default: 44444]"⟩,
   ⟨.switch .version, some 'V', some "version", none, "Print version and exit"⟩,
   ⟨.setting .logFormat, none, some "log-format", some "LOG_FORMAT",
    "The debug log format [default: pretty]"⟩,
   ⟨.setting .logFilter, none, some "log-filter", some "LOG_FILTER",
    "The debug log filter [default: tracepath=debug]"⟩,
   ⟨.setting .logSpanEvents, none, some "log-span-events", some "LOG_SPAN_EVENTS",
    "The debug log span events [default: off]"⟩,
   ⟨.switch .verbose, some 'v', some "verbose", none, "Enable verbose debug logging"⟩,
   ⟨.switch .help, some 'h', some "help", none, "Print help"⟩]

def ofShort? (c : Char) : Option Opt := (forms.find? (·.short = some c)).map (·.option)

def ofLong? (name : String) : Option Opt := (forms.find? (·.long = some name)).map (·.option)

/-- The option as it is shown, without its value. -/
def Form.name (f : Form) : String :=
  match f.long, f.short with
  | some long, _ => "--" ++ long
  | none, some c => "-" ++ String.singleton c
  | none, none => ""

def Form.text (f : Form) : String :=
  match f.value with
  | some value => f.name ++ " <" ++ value ++ ">"
  | none => f.name

def Opt.text (o : Opt) : String := ((forms.find? (·.option = o)).map Form.text).getD ""

def Setting.text (s : Setting) : String := (Opt.setting s).text

def Switch.text (s : Switch) : String := (Opt.switch s).text

end HopTrace.CommandLine
