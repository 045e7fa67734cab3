import HopTrace.CommandLine.Arguments
import HopTrace.Config.Destination
import HopTrace.Config.File

/-!
# Layers of settings

Every setting is taken from the command line if it is given there, else from the
configuration file if it is given there, else from the defaults. A port in the destination
counts as given on the command line, after the option for it. The two options for the
display of addresses count as one choice, made as soon as either is given. A switch can
only turn on what a file leaves off. A section that the file does not have gives the
defaults itself.
-/
namespace HopTrace

/-- The first layer that has a value, or else the default. -/
def layered {α : Type} (first second : Option α) (default : α) : α :=
  (first.orElse fun _ => second).getD default

@[simp] theorem layered_some {α : Type} (a : α) (second : Option α) (default : α) :
    layered (some a) second default = a := rfl

@[simp] theorem layered_none {α : Type} (second : Option α) (default : α) :
    layered none second default = second.getD default := rfl

inductive DestinationFault where
  | missing
  | invalidPort (destination : String)
  deriving DecidableEq, Repr

def DestinationFault.message : DestinationFault → String
  | .missing => "missing destination"
  | .invalidPort destination => "invalid port in destination: " ++ destination

namespace CommandLine.Arguments

def preference (a : Arguments) : Option IpPreference :=
  if a.ipv4 then some .ipv4Only else if a.ipv6 then some .ipv6Only else none

def mode (a : Arguments) : Option AddressMode :=
  if a.numeric || a.both then some (AddressMode.ofFlags a.numeric a.both) else none

/-- The destination, read into its parts. -/
def splitDestination (a : Arguments) : Except DestinationFault Destination :=
  match a.destination with
  | none => .error .missing
  | some text =>
    match Destination.ofText? text with
    | none => .error (.invalidPort text)
    | some d => .ok d

end CommandLine.Arguments

open CommandLine (Arguments)

def Settings.ofLayers (a : Arguments) (file : ConfigFile) : Except DestinationFault Settings := do
  let trace := file.trace.getD TraceSection.default
  let dns := file.dns.getD DnsSection.default
  let log := file.log.getD LogSection.default
  let destination ← a.splitDestination
  return {
    target := destination.host
    port := layered (a.port.orElse fun _ => destination.port) trace.port
      SessionConfig.defaultBasePort
    preference := layered a.preference trace.preference defaultPreference
    packetLength := a.packetLength.orElse fun _ => trace.packetLength
    maxHops := layered a.maxHops trace.maxHops SessionConfig.defaultMaxTtl
    mode := layered a.mode dns.mode defaultMode
    verbose := if a.verbose then true else log.verbose.getD defaultVerbose
    logFormat := layered a.logFormat log.format defaultLogFormat
    logFilter := layered a.logFilter log.filter defaultLogFilter
    logSpanEvents := layered a.logSpanEvents log.spanEvents defaultLogSpanEvents }

end HopTrace
