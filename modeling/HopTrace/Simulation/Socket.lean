import HopTrace.Socket

/-!
# A scripted socket

A socket whose next answers are laid out in advance, one kind of call at a time. A call
that is listed as refused fails with its error number and the operation it belongs to.
Everything else is granted.
-/
namespace HopTrace.Simulation

/-- The calls a script can refuse. -/
inductive SocketCallKind where
  | create (version : IpVersion)
  | enable (feature : SocketFeature)
  | limitHops (version : IpVersion)
  | sendTo
  | awaitReadable
  | receive
  | receiveError
  deriving DecidableEq, Repr

/-- A message waiting on the error queue of a scripted socket. -/
structure WaitingMessage where
  content : List UInt8
  bytesRead : Nat
  port : Option UInt16
  error : Option ExtendedError
  receivedTtl : Option UInt8
  deriving DecidableEq, Repr

structure ScriptedSocket where
  clock : Instant
  refusals : SocketCallKind → Option Errno
  ready : Bool
  reply : Option Nat
  message : Option WaitingMessage

namespace ScriptedSocket

def start (clock : Instant) (refusals : SocketCallKind → Option Errno) : ScriptedSocket :=
  ⟨clock, refusals, false, none, none⟩

/-- An answer that is given unless the call is refused. -/
def answered {α : Type} (kind : SocketCallKind) (cause : Errno → IoFailure)
    (answer : ScriptedSocket → α × ScriptedSocket) : EStateM IoFailure ScriptedSocket α := fun s =>
  match s.refusals kind with
  | some errno => .error (cause errno) s
  | none => let (a, s) := answer s; .ok a s

def readError (size : Nat) : EStateM IoFailure ScriptedSocket (Option QueueMessage) :=
  answered .receiveError (.call · .receiveError) fun s =>
    (s.message.map fun m =>
      { buffer := fillBuffer size m.content
        bytesRead := m.bytesRead
        port := m.port
        error := m.error
        receivedTtl := m.receivedTtl }, { s with message := none })

def waiting (s : ScriptedSocket) : Nat := if s.message.isSome then 1 else 0

theorem waiting_readError_lt {size : Nat} {s s' : ScriptedSocket} {m : QueueMessage}
    (h : readError size s = .ok (some m) s') : s'.waiting < s.waiting := by
  unfold readError answered at h
  split at h
  · injection h
  · cases e : s.message with
    | none => simp [e] at h
    | some w =>
      simp only [EStateM.Result.ok.injEq] at h
      simp [waiting, ← h.2, e]

end ScriptedSocket

def scriptedSocket : Socket ScriptedSocket where
  now s := (s.clock, s)
  create version := ScriptedSocket.answered (.create version) (.call · .newSocket) fun s => ((), s)
  enable feature :=
    ScriptedSocket.answered (.enable feature) (.call · feature.operation) fun s => ((), s)
  limitHops version _ :=
    ScriptedSocket.answered (.limitHops version) (.call · (hopLimitOperation version))
      fun s => ((), s)
  sendTo _ target := ScriptedSocket.answered .sendTo (.send · target) fun s => ((), s)
  awaitReadable _ := ScriptedSocket.answered .awaitReadable (.call · .select) fun s => (s.ready, s)
  receive _ := ScriptedSocket.answered .receive (.call · .receive) fun s => (s.reply, s)
  receiveError := ScriptedSocket.readError
  pending := ScriptedSocket.waiting
  pending_lt := ScriptedSocket.waiting_readError_lt
  pending_now_le _ := Nat.le_refl _

end HopTrace.Simulation
