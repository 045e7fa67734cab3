import HopTrace.Config.Settings
import HopTrace.Toml.Decode
import HopTrace.Toml.Document

/-!
# Configuration files

A configuration file has up to three sections, each with optional entries. A section that
is absent and one without entries are different documents but leave the same choices open.
-/
namespace HopTrace

open Toml (DocumentError Decoder)

structure TraceSection where
  preference : Option IpPreference := none
  packetLength : Option UInt32 := none
  maxHops : Option UInt8 := none
  port : Option UInt16 := none
  deriving DecidableEq, Repr

structure DnsSection where
  mode : Option AddressMode := none
  deriving DecidableEq, Repr

structure LogSection where
  verbose : Option Bool := none
  format : Option LogFormat := none
  filter : Option String := none
  spanEvents : Option LogSpanEvents := none
  deriving DecidableEq, Repr

structure ConfigFile where
  trace : Option TraceSection := none
  dns : Option DnsSection := none
  log : Option LogSection := none
  deriving DecidableEq, Repr

namespace TraceSection

/-- What holds when there is no file. -/
def default : TraceSection where
  preference := some Settings.defaultPreference
  maxHops := some SessionConfig.defaultMaxTtl
  port := some SessionConfig.defaultBasePort

def decoder : Decoder TraceSection :=
  .record "struct ConfigTrace"
    [.of "addr-family" (.choice IpPreference.choices) fun s v => { s with preference := some v },
     .of "packet-length" .uint32 fun s v => { s with packetLength := some v },
     .of "max-hops" .uint8 fun s v => { s with maxHops := some v },
     .of "port" .uint16 fun s v => { s with port := some v }]
    {}

end TraceSection

namespace DnsSection

def default : DnsSection where
  mode := some Settings.defaultMode

def decoder : Decoder DnsSection :=
  .record "struct ConfigDns"
    [.of "address-mode" (.choice AddressMode.choices) fun s v => { s with mode := some v }]
    {}

end DnsSection

namespace LogSection

def default : LogSection where
  verbose := some Settings.defaultVerbose
  format := some Settings.defaultLogFormat
  filter := some Settings.defaultLogFilter
  spanEvents := some Settings.defaultLogSpanEvents

def decoder : Decoder LogSection :=
  .record "struct ConfigLog"
    [.of "verbose" .boolean fun s v => { s with verbose := some v },
     .of "format" (.choice LogFormat.choices) fun s v => { s with format := some v },
     .of "filter" .string fun s v => { s with filter := some v },
     .of "span-events" (.choice LogSpanEvents.choices) fun s v => { s with spanEvents := some v }]
    {}

end LogSection

namespace ConfigFile

/-- What holds when there is no file. -/
def default : ConfigFile where
  trace := some TraceSection.default
  dns := some DnsSection.default
  log := some LogSection.default

def decoder : Decoder ConfigFile :=
  .record "struct ConfigFile"
    [.of "trace" TraceSection.decoder fun f v => { f with trace := some v },
     .of "dns" DnsSection.decoder fun f v => { f with dns := some v },
     .of "log" LogSection.decoder fun f v => { f with log := some v }]
    {}

/-- The configuration that a document spells. -/
def parse (text : String) : Except DocumentError ConfigFile :=
  match Toml.parse text with
  | .error offset => .error ⟨.malformed, offset⟩
  | .ok root => decoder.run 0 root.node

end ConfigFile

end HopTrace
