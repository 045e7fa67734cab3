import HopTrace.Address
import HopTrace.Errno
import HopTrace.Instant
import HopTrace.Notification

/-!
# Events

What a trace reports while it runs. A hop is a decoded notification; its status says
what the notification means for the path, and all statuses but the intermediate hop and
the lowered path MTU end the trace.
-/
namespace HopTrace

inductive Responder where
  | local
  /-- The name is absent when none was asked for. -/
  | remote (address : Option IpAddress) (name : Option String)
  | unknown
  deriving DecidableEq, Repr

/-- The responder of an error before any name is looked up. -/
def Responder.ofError (e : ExtendedError) : Responder :=
  match e.origin with
  | .local => .local
  | .icmp | .icmp6 => .remote e.offender none
  | .other _ => .unknown

inductive HopStatus where
  /-- An intermediate hop, with the length of the way back if it differs. -/
  | hop (asymmetry : Option UInt8)
  | pathMtu (mtu : UInt32)
  | reached
  | protocolError
  | hostUnreachable
  | netUnreachable
  | accessDenied
  | netError (errno : Errno)
  deriving DecidableEq, Repr

namespace HopStatus

def isTerminal : HopStatus → Bool
  | .hop _ | .pathMtu _ => false
  | _ => true

@[simp] theorem isTerminal_hop (a : Option UInt8) : (hop a).isTerminal = false := rfl

@[simp] theorem isTerminal_pathMtu (m : UInt32) : (pathMtu m).isTerminal = false := rfl

@[simp] theorem isTerminal_reached : reached.isTerminal = true := rfl

end HopStatus

structure Hop where
  /-- The ttl that was being probed when the notification was read. -/
  ttl : UInt8
  /-- The ttl of the probe the notification answers, if that probe is known. -/
  confirmed : Option UInt8
  responder : Responder
  rtt : Option Span
  /-- The echoed header was complete and corrupt. -/
  broken : Bool
  status : HopStatus
  deriving DecidableEq, Repr

def Hop.number (h : Hop) : UInt8 := h.confirmed.getD h.ttl

inductive Event where
  | hop (hop : Hop)
  /-- A notification without an extended error. -/
  | noInfo
  | replyReceived (ttl : UInt8)
  | sendFailed (ttl : UInt8)
  | noReply (ttl : UInt8)
  deriving DecidableEq, Repr

end HopTrace
