import HopTrace.Event
import HopTrace.Failure
import HopTrace.Family
import HopTrace.History
import HopTrace.Payload

/-!
# The session of a trace

The state one trace carries from probe to probe: the estimate of the path MTU, the
history of outstanding probes and, once the target has answered, the number of hops there
and back. The estimate is only ever lowered and the hop counts are set once.

`Session.decode` is the meaning of one notification. It first settles which probe is
answered: the record for the destination port is always consumed, a trusted echoed header
wins over it, and a complete header that cannot be trusted only marks the responder as
broken. It is pure; looking up the responder's name is left to `HopTrace.Drain`.

The buffer of the probes is reserved when a session starts. Memory is taken to suffice for
it, so that a session always starts.
-/
namespace HopTrace

structure SessionConfig where
  family : Family
  basePort : UInt16
  mtu : UInt32
  maxTtl : UInt8
  mode : AddressMode
  deriving DecidableEq, Repr

namespace SessionConfig

def defaultBasePort : UInt16 := 44444

def defaultMaxTtl : UInt8 := 30

def default : SessionConfig where
  family := .v4
  basePort := defaultBasePort
  mtu := Family.defaultMtu .v4
  maxTtl := defaultMaxTtl
  mode := .host

instance : Inhabited SessionConfig := ⟨SessionConfig.default⟩

end SessionConfig

structure Session where
  family : Family
  basePort : UInt16
  mtu : UInt32
  maxTtl : UInt8
  mode : AddressMode
  history : History
  hopsTo : Option UInt8
  hopsFrom : Option UInt8
  /-- The longest payload, fixed when the session starts. -/
  capacity : Nat
  deriving DecidableEq, Repr

/-- The payload that fills a packet of size `mtu`. -/
def payloadLength (mtu overhead : UInt32) : Nat := mtu.toNat - overhead.toNat

/-- The probe a notification answers, as far as it can be determined. -/
structure MatchedProbe where
  ttl : Option UInt8
  sent : Option Instant
  broken : Bool
  deriving DecidableEq, Repr

/-- The probe that a record and an echoed payload point to. -/
def MatchedProbe.identify (record : Option ProbeRecord) (payload : List UInt8) :
    Except Failure MatchedProbe :=
  let known : MatchedProbe := ⟨record.map (·.ttl), record.map (·.sent), false⟩
  match ProbeHeader.read payload with
  | none => .ok known
  | some header =>
    match header.trustedTtl with
    | none => .ok { known with broken := true }
    | some ttl =>
      match header.sent with
      | none => .error .unrepresentableTime
      | some sent => .ok ⟨some ttl, some sent, false⟩

/-- What an error says about the path, given the ttl of the matched probe, the hops of
the way back and the ttl that is being probed. -/
def classify (e : ExtendedError) (sentHops backHops : Option UInt8) (ttl : UInt8) : HopStatus :=
  match e.code with
  | .timedOut => .hop none
  | .messageTooBig => .pathMtu e.info
  | .connectionRefused => .reached
  | .protocol => .protocolError
  | .hostUnreachable =>
    if e.isTimeExceeded then .hop (backHops.filter (· ≠ sentHops.getD ttl))
    else .hostUnreachable
  | .netUnreachable => .netUnreachable
  | .accessDenied => .accessDenied
  | .other errno => .netError errno

namespace Session

def start (c : SessionConfig) : Session where
  family := c.family
  basePort := c.basePort
  mtu := c.mtu
  maxTtl := c.maxTtl
  mode := c.mode
  history := History.empty
  hopsTo := none
  hopsFrom := none
  capacity := payloadLength c.mtu c.family.overhead

def clampMtu (s : Session) (mtu : UInt32) : Session :=
  if mtu < s.mtu then { s with mtu } else s

def setHops (s : Session) (hopsTo : UInt8) (hopsFrom : Option UInt8) : Session :=
  if s.hopsTo.isNone then { s with hopsTo := some hopsTo, hopsFrom } else s

/-- The payload of a probe sent now, which fills the path MTU. -/
def payload (s : Session) (ttl : UInt8) (sent : Instant) : Payload :=
  ⟨ProbeHeader.ofSend ttl sent, min (payloadLength s.mtu s.family.overhead) s.capacity⟩

def record (s : Session) (slot : Slot) (ttl : UInt8) (sent : Instant) : Session :=
  { s with history := s.history.record slot ttl sent }

def clear (s : Session) (slot : Slot) : Session := { s with history := s.history.clear slot }

def advance (s : Session) : Session := { s with history := s.history.advance }

/-- The ttls of a whole trace, in order. -/
def ttls (s : Session) : List UInt8 :=
  (List.range s.maxTtl.toNat).map fun i => UInt8.ofNat (i + 1)

theorem length_ttls (s : Session) : s.ttls.length = s.maxTtl.toNat := by
  simp [ttls]

/-- The record a notification consumes. -/
def takeRecord (s : Session) (port : Option UInt16) : Option ProbeRecord × Session :=
  match port.bind (Slot.ofPort · s.basePort) with
  | none => (none, s)
  | some slot => (s.history.get? slot, s.clear slot)

/-- The record is consumed even when the probe cannot be matched. -/
def matchProbe (s : Session) (n : Notification) : EStateM.Result Failure Session MatchedProbe :=
  match MatchedProbe.identify (s.takeRecord n.port).1 n.payload with
  | .ok probe => .ok probe (s.takeRecord n.port).2
  | .error e => .error e (s.takeRecord n.port).2

/-- What a status changes in the session. -/
def learn (s : Session) (status : HopStatus) (hops : UInt8) (backHops : Option UInt8) : Session :=
  match status with
  | .pathMtu mtu => s.clampMtu mtu
  | .reached => s.setHops hops backHops
  | .hop _ | .netError _ | .protocolError | .hostUnreachable | .netUnreachable | .accessDenied => s

/-- The hop a notification describes, with its responder not yet named, or nothing when
the notification carries no extended error. -/
def decode (ttl : UInt8) (n : Notification) (s : Session) :
    EStateM.Result Failure Session (Option Hop) :=
  match s.matchProbe n with
  | .error e s => .error e s
  | .ok probe s =>
    match n.error with
    | none => .ok none s
    | some e =>
      let backHops := n.receivedTtl.map returnHops
      let status := classify e probe.ttl backHops ttl
      let hop : Hop :=
        { ttl
          confirmed := probe.ttl.filter (· > 0)
          responder := Responder.ofError e
          rtt := probe.sent.map n.received.since
          broken := probe.broken
          status }
      .ok (some hop) (s.learn status (probe.ttl.getD ttl) backHops)

@[simp] theorem mtu_record (s : Session) (slot : Slot) (ttl : UInt8) (sent : Instant) :
    (s.record slot ttl sent).mtu = s.mtu := rfl

@[simp] theorem mtu_clear (s : Session) (slot : Slot) : (s.clear slot).mtu = s.mtu := rfl

@[simp] theorem mtu_advance (s : Session) : s.advance.mtu = s.mtu := rfl

@[simp] theorem mtu_setHops (s : Session) (hopsTo : UInt8) (hopsFrom : Option UInt8) :
    (s.setHops hopsTo hopsFrom).mtu = s.mtu := by
  unfold setHops
  split <;> rfl

theorem mtu_clampMtu_le (s : Session) (mtu : UInt32) : (s.clampMtu mtu).mtu ≤ s.mtu := by
  unfold clampMtu
  split
  · exact UInt32.le_of_lt ‹_›
  · exact UInt32.le_refl _

theorem mtu_learn_le (s : Session) (status : HopStatus) (hops : UInt8)
    (backHops : Option UInt8) : (s.learn status hops backHops).mtu ≤ s.mtu := by
  cases status with
  | pathMtu mtu => exact s.mtu_clampMtu_le mtu
  | reached => simp [learn]
  | _ => exact UInt32.le_refl _

@[simp] theorem mtu_takeRecord (s : Session) (port : Option UInt16) :
    (s.takeRecord port).2.mtu = s.mtu := by
  unfold takeRecord
  split <;> rfl

end Session

end HopTrace
