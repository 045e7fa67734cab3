import HopTrace.Journal

/-!
# The probe socket

A datagram socket that reports extended errors. It is created for one version of the
protocol, told once what to report, and then used through five operations. Reading its
error queue fills a buffer of a given size, zeros included, and says how many bytes the
message claims to have; the claim may exceed the buffer.

`Socket.connect` sets a socket up for a target, and `Socket.network` is the network of a
trace over it. A mapped target needs the features of both versions, and its hop limit is
set twice.
-/
namespace HopTrace

/-- What a probe socket is told once. -/
inductive SocketFeature where
  /-- Never fragment, and always forbid others to. -/
  | mtuDiscover (version : IpVersion)
  /-- Keep extended errors on the error queue. -/
  | errors (version : IpVersion)
  /-- Report the hop limit of the packet that brought a message. -/
  | receivedTtl (version : IpVersion)
  deriving DecidableEq, Repr

def SocketFeature.operation : SocketFeature → IoOperation
  | .mtuDiscover .v4 => .setMtuDiscover
  | .mtuDiscover .v6 => .setMtuDiscoverV6
  | .errors .v4 => .setReceiveErrors
  | .errors .v6 => .setReceiveErrorsV6
  | .receivedTtl .v4 => .setReceiveTtl
  | .receivedTtl .v6 => .setReceiveHopLimitV6

def hopLimitOperation : IpVersion → IoOperation
  | .v4 => .setTtl
  | .v6 => .setUnicastHopsV6

/-- A message read from the error queue. -/
structure QueueMessage where
  buffer : List UInt8
  bytesRead : Nat
  port : Option UInt16
  error : Option ExtendedError
  receivedTtl : Option UInt8
  deriving DecidableEq, Repr

structure Socket (σ : Type) where
  now : σ → Instant × σ
  create : IpVersion → EStateM IoFailure σ Unit
  enable : SocketFeature → EStateM IoFailure σ Unit
  limitHops : IpVersion → UInt8 → EStateM IoFailure σ Unit
  sendTo : Payload → Endpoint → EStateM IoFailure σ Unit
  awaitReadable : Span → EStateM IoFailure σ Bool
  receive : Nat → EStateM IoFailure σ (Option Nat)
  receiveError : Nat → EStateM IoFailure σ (Option QueueMessage)
  pending : σ → Nat
  pending_lt : ∀ {size : Nat} {s s' : σ} {m : QueueMessage},
    receiveError size s = .ok (some m) s' → pending s' < pending s
  pending_now_le : ∀ s : σ, pending (now s).2 ≤ pending s

def SocketFeature.all (version : IpVersion) : List SocketFeature :=
  [.mtuDiscover version, .errors version, .receivedTtl version]

/-- The features a socket for the family is told, in order. -/
def Family.features : Family → List SocketFeature
  | .v4 => SocketFeature.all .v4
  | .v6 false => SocketFeature.all .v6
  | .v6 true => SocketFeature.all .v6 ++ SocketFeature.all .v4

/-- The hop limits that are set together. -/
def Family.hopLimits : Family → List IpVersion
  | .v4 => [.v4]
  | .v6 false => [.v6]
  | .v6 true => [.v6, .v4]

/-- A buffer of the given size with `content` copied to its front as far as it fits. -/
def fillBuffer (size : Nat) (content : List UInt8) : List UInt8 :=
  content.take size ++ List.replicate (size - content.length) 0

/-- A failed system call as the failure of a trace. -/
def liftIo {σ α : Type} (act : EStateM IoFailure σ α) : EStateM Failure σ α := fun s =>
  match act s with
  | .ok a s => .ok a s
  | .error e s => .error (.io e) s

/-- The room for a reply from the target. -/
def replySize : Nat := 1024

namespace Socket

variable {σ : Type}

def connect (sock : Socket σ) (target : IpAddress) : EStateM Failure σ Unit := do
  let family := Family.ofTarget target
  liftIo (sock.create family.socketVersion)
  family.features.forM fun feature => liftIo (sock.enable feature)

def setTtl (sock : Socket σ) (family : Family) (ttl : UInt8) : EStateM Failure σ Unit :=
  family.hopLimits.forM fun version => liftIo (sock.limitHops version ttl)

def send (sock : Socket σ) (target : IpAddress) (payload : Payload) (port : UInt16) :
    EStateM Failure σ Unit := fun s =>
  match sock.sendTo payload { address := target, port } s with
  | .ok () s => .ok () s
  | .error e s => .error (.probeFailed e) s

/-- A datagram of at least one byte. A failure to read one counts as no reply. -/
def receiveReply (sock : Socket σ) : EStateM Failure σ (Option Nat) := fun s =>
  match sock.receive replySize s with
  | .ok size s => .ok (size.filter (· > 0)) s
  | .error _ s => .ok none s

/-- The message as it is understood at the time `received`. -/
def notification (m : QueueMessage) (received : Instant) : Notification :=
  { received
    port := m.port
    payload := m.buffer.take (min m.bytesRead ProbeHeader.size)
    error := m.error
    receivedTtl := m.receivedTtl }

def receiveNotification (sock : Socket σ) : EStateM Failure σ (Option Notification) := fun s =>
  match sock.receiveError ProbeHeader.size s with
  | .error e s => .error (.io e) s
  | .ok none s => .ok none s
  | .ok (some m) s => .ok (some (notification m (sock.now s).1)) (sock.now s).2

theorem pending_receiveNotification_lt (sock : Socket σ) {s s' : σ} {n : Notification}
    (h : sock.receiveNotification s = .ok (some n) s') : sock.pending s' < sock.pending s := by
  unfold receiveNotification at h
  split at h
  · injection h
  · injection h with h₁ _
    exact absurd h₁ (by simp)
  · next m s₁ e =>
    injection h with _ h₂
    rw [← h₂]
    exact Nat.lt_of_le_of_lt (sock.pending_now_le s₁) (sock.pending_lt e)

/-- The network of a trace to `target` over a connected socket. -/
def network (sock : Socket σ) (target : IpAddress) : Network σ where
  now := sock.now
  setTtl := sock.setTtl (Family.ofTarget target)
  send := sock.send target
  awaitReadable limit := liftIo (sock.awaitReadable limit)
  receiveReply := sock.receiveReply
  receiveNotification := sock.receiveNotification
  pending := sock.pending
  pending_lt := sock.pending_receiveNotification_lt

end Socket

inductive SocketCall where
  | create (version : IpVersion)
  | enable (feature : SocketFeature)
  | limitHops (version : IpVersion) (limit : UInt8)
  | sendTo (payload : Payload) (target : Endpoint)
  | awaitReadable (limit : Span)
  | receive (size : Nat)
  | receiveError (size : Nat)
  deriving DecidableEq, Repr

/-- A socket that writes down what is asked of it. -/
def Socket.recorded {ι σ : Type} (sock : Socket σ) (mark : SocketCall → ι) :
    Socket (Journal ι σ) where
  now := Journal.sense sock.now
  create version := Journal.perform (mark (.create version)) (sock.create version)
  enable feature := Journal.perform (mark (.enable feature)) (sock.enable feature)
  limitHops version limit :=
    Journal.perform (mark (.limitHops version limit)) (sock.limitHops version limit)
  sendTo payload target :=
    Journal.perform (mark (.sendTo payload target)) (sock.sendTo payload target)
  awaitReadable limit := Journal.perform (mark (.awaitReadable limit)) (sock.awaitReadable limit)
  receive size := Journal.perform (mark (.receive size)) (sock.receive size)
  receiveError size := Journal.perform (mark (.receiveError size)) (sock.receiveError size)
  pending j := sock.pending j.inner
  pending_lt h := sock.pending_lt (Journal.perform_eq_ok h)
  pending_now_le j := sock.pending_now_le j.inner

end HopTrace
