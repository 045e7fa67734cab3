import HopTrace.Kernel
import HopTrace.Simulation.Network

/-!
# A scripted host

A host whose system calls are answered from a script, one entry for each datagram sent.
Sending moves the clock, replaces the answers to reads of a reply, and appends to the
error queue; the entry also says whether the datagram is refused, what the next wait
answers and how long it takes. Reading a message from the error queue moves the clock
again. Once its script is used up the host grants every datagram and reports nothing.
-/
namespace HopTrace.Simulation

/-- A message on the way to the error queue. -/
structure ScriptedMessage where
  /-- The version of the address that carries the port, if there is one. -/
  name : Option IpVersion
  port : ScriptedPort
  payload : ScriptedBytes
  /-- How far the clock moves before the message is read. -/
  after : Int
  control : List ControlMessage
  cutOff : Bool
  deriving DecidableEq, Repr

/-- A message as it lies on the error queue. -/
structure QueuedMessage where
  source : Option SourceAddress
  content : List UInt8
  after : Int
  control : List ControlMessage
  cutOff : Bool
  deriving DecidableEq, Repr

def ScriptedMessage.queued (m : ScriptedMessage) (payload : Payload) (port : UInt16) :
    QueuedMessage where
  source := m.name.map fun version => .internet version ((m.port.resolve port).getD 0)
  content := m.payload.resolve payload
  after := m.after
  control := m.control
  cutOff := m.cutOff

structure KernelEntry where
  /-- Why the datagram is refused, if it is. -/
  refusal : Option Errno
  tick : Nat
  select : Except Errno Nat
  wait : Nat
  replies : List (Except Errno Nat)
  errors : List (Except Errno ScriptedMessage)

def KernelEntry.empty : KernelEntry := ⟨none, 0, .ok 0, 0, [], []⟩

structure ScriptedKernel where
  clock : Instant
  script : List KernelEntry
  socketRefusal : Option Errno
  optionRefusals : SocketOption → Option Errno
  select : Except Errno Nat
  wait : Nat
  replies : List (Except Errno Nat)
  errors : List (Except Errno QueuedMessage)

namespace ScriptedKernel

def start (clock : Instant) (script : List KernelEntry) (socketRefusal : Option Errno)
    (optionRefusals : SocketOption → Option Errno) : ScriptedKernel :=
  { clock, script, socketRefusal, optionRefusals
    select := .ok 0
    wait := 0
    replies := []
    errors := [] }

/-- Success, unless there is a reason to refuse. -/
def granted (refusal : Option Errno) (s : ScriptedKernel) :
    EStateM.Result Errno ScriptedKernel Unit :=
  match refusal with
  | none => .ok () s
  | some errno => .error errno s

def answered {α : Type} (answer : Except Errno α) (s : ScriptedKernel) :
    EStateM.Result Errno ScriptedKernel α :=
  match answer with
  | .ok a => .ok a s
  | .error errno => .error errno s

def sendTo (payload : Payload) (target : Endpoint) (s : ScriptedKernel) :
    EStateM.Result Errno ScriptedKernel Unit :=
  let entry := s.script.headD KernelEntry.empty
  granted entry.refusal { s with
    clock := s.clock.later entry.tick
    script := s.script.tail
    select := entry.select
    wait := entry.wait
    replies := entry.replies
    errors := s.errors ++ entry.errors.map fun e => e.map (·.queued payload target.port) }

def awaitSelect (s : ScriptedKernel) : EStateM.Result Errno ScriptedKernel Nat :=
  answered s.select { s with clock := s.clock.later s.wait }

def receive (s : ScriptedKernel) : EStateM.Result Errno ScriptedKernel Nat :=
  match s.replies with
  | [] => .error Errno.wouldBlock s
  | reply :: replies => answered reply { s with replies }

/-- The bytes that control messages take together. -/
def roomFor (messages : List ControlMessage) : Nat :=
  messages.foldl (fun n m => n + m.space) 0

/-- The message as it is read into buffers of the given sizes. -/
def read (size room : Nat) (m : QueuedMessage) : HostMessage where
  content := m.content.take size
  bytesRead := min m.content.length size
  source := m.source
  control := m.control
  truncated := m.cutOff || roomFor m.control > room

def receiveError (size room : Nat) (s : ScriptedKernel) :
    EStateM.Result Errno ScriptedKernel HostMessage :=
  match s.errors with
  | [] => .error Errno.wouldBlock s
  | .error errno :: errors => .error errno { s with errors }
  | .ok m :: errors => .ok (read size room m) { s with errors, clock := s.clock.later m.after }

theorem receive_interrupted {s s' : ScriptedKernel}
    (h : receive s = .error Errno.interrupted s') : s'.replies.length < s.replies.length := by
  unfold receive at h
  split at h
  · injection h with h₁ _
    exact absurd h₁ (by decide)
  · next reply replies e =>
    cases reply with
    | ok _ => simp [answered] at h
    | error _ =>
      simp only [answered, EStateM.Result.error.injEq] at h
      simp [← h.2, e]

theorem receiveError_interrupted {size room : Nat} {s s' : ScriptedKernel}
    (h : receiveError size room s = .error Errno.interrupted s') :
    s'.errors.length < s.errors.length := by
  unfold receiveError at h
  split at h
  · injection h with h₁ _
    exact absurd h₁ (by decide)
  · next e =>
    injection h with _ h₂
    simp [← h₂, e]
  · injection h

theorem receiveError_ok {size room : Nat} {s s' : ScriptedKernel} {m : HostMessage}
    (h : receiveError size room s = .ok m s') : s'.errors.length < s.errors.length := by
  unfold receiveError at h
  split at h
  · injection h
  · injection h
  · next e =>
    injection h with _ h₂
    simp [← h₂, e]

end ScriptedKernel

def scriptedKernel : Kernel ScriptedKernel where
  now s := (s.clock, s)
  createSocket _ s := ScriptedKernel.granted s.socketRefusal s
  setOption option _ s := ScriptedKernel.granted (s.optionRefusals option) s
  sendTo := ScriptedKernel.sendTo
  select _ := ScriptedKernel.awaitSelect
  receive _ := ScriptedKernel.receive
  receiveError := ScriptedKernel.receiveError
  replyBacklog s := s.replies.length
  errorBacklog s := s.errors.length
  receive_interrupted := ScriptedKernel.receive_interrupted
  receiveError_interrupted := ScriptedKernel.receiveError_interrupted
  receiveError_ok := ScriptedKernel.receiveError_ok
  errorBacklog_now_le _ := Nat.le_refl _

end HopTrace.Simulation
