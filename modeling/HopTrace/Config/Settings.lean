import HopTrace.Names
import HopTrace.Session

/-!
# Settings

The choices a user makes by name, and everything a configured trace is run with. Each
choice is a list of names in the order they are shown; a name stands for at most one
choice, and case matters.
-/
namespace HopTrace

inductive LogFormat where
  | compact
  | pretty
  | json
  deriving DecidableEq, Repr

inductive LogSpanEvents where
  | off
  | active
  | full
  deriving DecidableEq, Repr

def LogFormat.choices : List (String × LogFormat) :=
  [("compact", .compact), ("pretty", .pretty), ("json", .json)]

def LogSpanEvents.choices : List (String × LogSpanEvents) :=
  [("off", .off), ("active", .active), ("full", .full)]

def IpPreference.choices : List (String × IpPreference) :=
  [("ipv4", .ipv4Only), ("ipv6", .ipv6Only), ("system", .system)]

def AddressMode.choices : List (String × AddressMode) :=
  [("host", .host), ("ip", .ip), ("host-ip", .hostIp), ("ip-host", .ipHost)]

/-- The settings of one run. -/
structure Settings where
  target : String
  port : UInt16
  preference : IpPreference
  packetLength : Option UInt32
  maxHops : UInt8
  mode : AddressMode
  verbose : Bool
  logFormat : LogFormat
  logFilter : String
  logSpanEvents : LogSpanEvents
  deriving DecidableEq, Repr

namespace Settings

def defaultPreference : IpPreference := .system
def defaultMode : AddressMode := .host
def defaultVerbose : Bool := false
def defaultLogFormat : LogFormat := .pretty
def defaultLogFilter : String := "tracepath=debug"
def defaultLogSpanEvents : LogSpanEvents := .off

end Settings

end HopTrace
