import HopTrace.Address

/-!
# The family of a path

The family of a target fixes which socket carries the probes, how many bytes of headers
each probe is wrapped in, and the size of the first probe when none is asked for. A
mapped target is sent through a version 6 socket while its packets are version 4; it
has the headers of version 4 and the first size of version 6.
-/
namespace HopTrace

inductive Family where
  | v4
  | v6 (mapped : Bool)
  deriving DecidableEq, Repr

namespace Family

def ofTarget : IpAddress → Family
  | .v4 _ => .v4
  | .v6 ip => .v6 ip.isMapped

/-- Whether the packets on the wire are version 4. -/
def isIpv4Path : Family → Bool
  | .v4 => true
  | .v6 mapped => mapped

/-- Bytes of network and datagram headers around each probe. -/
def overhead (f : Family) : UInt32 := if f.isIpv4Path then 28 else 48

def defaultMtu : Family → UInt32
  | .v4 => 65535
  | .v6 _ => 128000

def socketVersion : Family → IpVersion
  | .v4 => .v4
  | .v6 _ => .v6

def text : Family → String
  | .v4 => "v4"
  | .v6 false => "v6"
  | .v6 true => "v6 (v4 mapped)"

@[simp] theorem overhead_v4 : overhead .v4 = 28 := rfl

@[simp] theorem overhead_v6 (mapped : Bool) :
    overhead (.v6 mapped) = if mapped then 28 else 48 := rfl

theorem overhead_lt_defaultMtu (f : Family) : f.overhead < f.defaultMtu := by
  rcases f with _ | (_ | _) <;> decide

end Family

/-- How the responder of each hop is shown. -/
inductive AddressMode where
  | host
  | ip
  | hostIp
  | ipHost
  deriving DecidableEq, Repr

namespace AddressMode

def ofFlags (numeric both : Bool) : AddressMode :=
  match numeric, both with
  | false, false => .host
  | true, false => .ip
  | false, true => .hostIp
  | true, true => .ipHost

/-- Every mode but the purely numeric one shows a name. -/
def needsHostname (m : AddressMode) : Bool := m ≠ .ip

theorem needsHostname_iff {m : AddressMode} : m.needsHostname = true ↔ m ≠ .ip :=
  decide_eq_true_iff

end AddressMode

end HopTrace
