import HopTrace.Socket

/-!
# System calls

The calls a probe socket is made of, each refused with an error number. Two of them may
be interrupted and are then repeated at once; they end because an interruption lowers the
backlog of the call. A call that would block answers that there is nothing to read.

The calls that wait and read report an error number without a meaning as no error at all;
the others report every number as it is.

An error queue message arrives with control messages. `decodeControl` folds them: the last
extended error and the last hop limit win, a hop limit that is no byte counts as none, and
everything else is ignored.
-/
namespace HopTrace

/-- An extended error as the host reports it. -/
structure HostError where
  errno : UInt32
  origin : UInt8
  icmpType : UInt8
  icmpCode : UInt8
  info : UInt32
  deriving DecidableEq, Repr

inductive ControlMessage where
  | errorV4 (error : HostError) (offender : Option Ipv4)
  | errorV6 (error : HostError) (offender : Option Ipv6)
  | ttl (value : Int32)
  | hopLimit (value : Int32)
  | other
  deriving DecidableEq, Repr

def Origin.ofCode (code : UInt8) : Origin :=
  if code = 1 then .local else if code = 2 then .icmp else if code = 3 then .icmp6 else .other code

def HostError.extended (e : HostError) (offender : Option IpAddress) : ExtendedError where
  origin := Origin.ofCode e.origin
  code := ErrorCode.ofErrno e.errno.toInt32
  icmpType := e.icmpType
  icmpCode := e.icmpCode
  info := e.info
  offender := offender

/-- A hop limit, if it is a byte. -/
def byteValue (value : Int32) : Option UInt8 :=
  if 0 ≤ value.toInt ∧ value.toInt ≤ 255 then some (UInt8.ofNat value.toInt.toNat) else none

/-- What a message tells beside its payload. -/
structure ControlSummary where
  error : Option ExtendedError
  receivedTtl : Option UInt8
  deriving DecidableEq, Repr

def ControlSummary.empty : ControlSummary := ⟨none, none⟩

def ControlSummary.add (c : ControlSummary) : ControlMessage → ControlSummary
  | .errorV4 e offender => { c with error := some (e.extended (offender.map .v4)) }
  | .errorV6 e offender =>
    { c with error := some (e.extended (offender.map fun ip => (IpAddress.v6 ip).unmapped)) }
  | .ttl value | .hopLimit value => { c with receivedTtl := byteValue value }
  | .other => c

def decodeControl (messages : List ControlMessage) : ControlSummary :=
  messages.foldl ControlSummary.add .empty

/-- A control message is a header of sixteen bytes and its data, rounded up to eight. -/
def controlSpace (data : Nat) : Nat := 16 + (data + 7) / 8 * 8

/-- The bytes a control message takes: an error is sixteen bytes and the address of the
offender if there is one, and anything else is one integer. -/
def ControlMessage.space : ControlMessage → Nat
  | .errorV4 _ none | .errorV6 _ none => controlSpace 16
  | .errorV4 _ (some _) => controlSpace (16 + 16)
  | .errorV6 _ (some _) => controlSpace (16 + 28)
  | .ttl _ | .hopLimit _ | .other => controlSpace 4

/-- The room for control messages: one error, one address and one integer. -/
def controlSize : Nat := controlSpace 16 + controlSpace 28 + controlSpace 4

/-- The address a message comes with. Only one of the Internet Protocol carries a port. -/
inductive SourceAddress where
  | internet (version : IpVersion) (port : UInt16)
  | other
  deriving DecidableEq, Repr

def SourceAddress.port? : SourceAddress → Option UInt16
  | .internet _ port => some port
  | .other => none

/-- What the host reads from the error queue. -/
structure HostMessage where
  content : List UInt8
  bytesRead : Nat
  /-- The address that carries the port of the probe. -/
  source : Option SourceAddress
  control : List ControlMessage
  /-- The control messages did not fit. -/
  truncated : Bool
  deriving DecidableEq, Repr

inductive SocketOption where
  | feature (feature : SocketFeature)
  | hopLimit (version : IpVersion)
  deriving DecidableEq, Repr

namespace SocketOption

def level : SocketOption → Nat
  | .feature (.mtuDiscover .v4) | .feature (.errors .v4) | .feature (.receivedTtl .v4)
  | .hopLimit .v4 => 0
  | _ => 41

def number : SocketOption → Nat
  | .feature (.mtuDiscover .v4) => 10
  | .feature (.errors .v4) => 11
  | .feature (.receivedTtl .v4) => 12
  | .feature (.mtuDiscover .v6) => 23
  | .feature (.errors .v6) => 25
  | .feature (.receivedTtl .v6) => 51
  | .hopLimit .v4 => 2
  | .hopLimit .v6 => 16

end SocketOption

/-- The value that switches a feature on. -/
def SocketFeature.value : SocketFeature → Nat
  | .mtuDiscover _ => 2
  | .errors _ | .receivedTtl _ => 1

structure Kernel (κ : Type) where
  now : κ → Instant × κ
  createSocket : IpVersion → EStateM Errno κ Unit
  setOption : SocketOption → Nat → EStateM Errno κ Unit
  sendTo : Payload → Endpoint → EStateM Errno κ Unit
  /-- The number of readable sockets, at most one, after waiting for at most a time. -/
  select : Span → EStateM Errno κ Nat
  receive : Nat → EStateM Errno κ Nat
  receiveError : (size controlSize : Nat) → EStateM Errno κ HostMessage
  replyBacklog : κ → Nat
  errorBacklog : κ → Nat
  receive_interrupted : ∀ {size : Nat} {s s' : κ},
    receive size s = .error Errno.interrupted s' → replyBacklog s' < replyBacklog s
  receiveError_interrupted : ∀ {size room : Nat} {s s' : κ},
    receiveError size room s = .error Errno.interrupted s' → errorBacklog s' < errorBacklog s
  receiveError_ok : ∀ {size room : Nat} {s s' : κ} {m : HostMessage},
    receiveError size room s = .ok m s' → errorBacklog s' < errorBacklog s
  errorBacklog_now_le : ∀ s : κ, errorBacklog (now s).2 ≤ errorBacklog s

namespace Kernel

variable {κ α : Type}

/-- A refused call as the failure of an operation. -/
def attempt (operation : IoOperation) (act : EStateM Errno κ α) : EStateM IoFailure κ α := fun s =>
  match act s with
  | .ok a s => .ok a s
  | .error e s => .error (.call e operation) s

def sendProbe (k : Kernel κ) (payload : Payload) (target : Endpoint) : EStateM IoFailure κ Unit :=
  fun s => match k.sendTo payload target s with
    | .ok () s => .ok () s
    | .error e s => .error (.send e target) s

/-- An interrupted wait counts as a wait in vain. -/
def awaitReadable (k : Kernel κ) (limit : Span) : EStateM IoFailure κ Bool := fun s =>
  match k.select limit s with
  | .ok ready s => .ok (ready = 1) s
  | .error e s =>
    if e = Errno.interrupted then .ok false s else .error (.call e.recognized .select) s

def readReply (k : Kernel κ) (size : Nat) (s : κ) :
    EStateM.Result IoFailure κ (Option Nat) :=
  match _ : k.receive size s with
  | .ok n s' => .ok (some n) s'
  | .error e s' =>
    if e = Errno.wouldBlock then .ok none s'
    else if _ : e = Errno.interrupted then k.readReply size s'
    else .error (.call e.recognized .receive) s'
termination_by k.replyBacklog s
decreasing_by
  subst ‹e = Errno.interrupted›
  exact k.receive_interrupted ‹_›

/-- The message in terms of the socket, unless its control messages were cut off. -/
def queueMessage (m : HostMessage) (size : Nat) : Except IoFailure QueueMessage :=
  if m.truncated then .error (.call Errno.noBufferSpace .receiveError)
  else
    let control := decodeControl m.control
    .ok
      { buffer := fillBuffer size m.content
        bytesRead := m.bytesRead
        port := m.source.bind SourceAddress.port?
        error := control.error
        receivedTtl := control.receivedTtl }

def readError (k : Kernel κ) (size : Nat) (s : κ) :
    EStateM.Result IoFailure κ (Option QueueMessage) :=
  match _ : k.receiveError size controlSize s with
  | .ok m s' =>
    match queueMessage m size with
    | .ok message => .ok (some message) s'
    | .error e => .error e s'
  | .error e s' =>
    if e = Errno.wouldBlock then .ok none s'
    else if _ : e = Errno.interrupted then k.readError size s'
    else .error (.call e.recognized .receiveError) s'
termination_by k.errorBacklog s
decreasing_by
  subst ‹e = Errno.interrupted›
  exact k.receiveError_interrupted ‹_›

theorem errorBacklog_readError_lt (k : Kernel κ) {size : Nat} {s s' : κ} {m : QueueMessage}
    (h : k.readError size s = .ok (some m) s') : k.errorBacklog s' < k.errorBacklog s := by
  fun_induction Kernel.readError k size s with
  | case1 s m₁ s₁ read message converted =>
    injection h with _ h₂
    subst h₂
    exact k.receiveError_ok read
  | case2 => injection h
  | case3 => simp at h
  | case4 s s₁ read _ ih => exact Nat.lt_trans (ih h) (k.receiveError_interrupted read)
  | case5 => injection h

/-- The probe socket of a host. -/
def socket (k : Kernel κ) : Socket κ where
  now := k.now
  create version := attempt .newSocket (k.createSocket version)
  enable feature := attempt feature.operation (k.setOption (.feature feature) feature.value)
  limitHops version limit :=
    attempt (hopLimitOperation version) (k.setOption (.hopLimit version) limit.toNat)
  sendTo := k.sendProbe
  awaitReadable := k.awaitReadable
  receive := k.readReply
  receiveError := k.readError
  pending := k.errorBacklog
  pending_lt := k.errorBacklog_readError_lt
  pending_now_le := k.errorBacklog_now_le

end Kernel

inductive SystemCall where
  | createSocket (version : IpVersion)
  | setOption (option : SocketOption) (value : Nat)
  | sendTo (payload : Payload) (target : Endpoint)
  | select (limit : Span)
  | receive (size : Nat)
  | receiveError
  deriving DecidableEq, Repr

/-- A host that writes down the calls made to it. -/
def Kernel.recorded {ι κ : Type} (k : Kernel κ) (mark : SystemCall → ι) :
    Kernel (Journal ι κ) where
  now := Journal.sense k.now
  createSocket version := Journal.perform (mark (.createSocket version)) (k.createSocket version)
  setOption option value := Journal.perform (mark (.setOption option value)) (k.setOption option value)
  sendTo payload target := Journal.perform (mark (.sendTo payload target)) (k.sendTo payload target)
  select limit := Journal.perform (mark (.select limit)) (k.select limit)
  receive size := Journal.perform (mark (.receive size)) (k.receive size)
  receiveError size room := Journal.perform (mark .receiveError) (k.receiveError size room)
  replyBacklog j := k.replyBacklog j.inner
  errorBacklog j := k.errorBacklog j.inner
  receive_interrupted h := k.receive_interrupted (Journal.perform_eq_error h)
  receiveError_interrupted h := k.receiveError_interrupted (Journal.perform_eq_error h)
  receiveError_ok h := k.receiveError_ok (Journal.perform_eq_ok h)
  errorBacklog_now_le j := k.errorBacklog_now_le j.inner

end HopTrace
