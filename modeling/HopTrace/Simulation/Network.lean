import HopTrace.Journal

/-!
# A scripted network

A network that answers from a script, one entry for each probe sent. Sending a probe moves
the clock, puts the notes of the entry on the error queue and decides what the next wait
and the next look for a reply answer. A note may echo the probe: its port, the front of
its payload, and a time relative to the clock at which it was queued.
-/
namespace HopTrace.Simulation

/-- A port in a script. -/
inductive ScriptedPort where
  | absent
  | fixed (port : UInt16)
  /-- The port of the probe that was just sent. -/
  | sent
  deriving DecidableEq, Repr

def ScriptedPort.resolve (sent : UInt16) : ScriptedPort → Option UInt16
  | .absent => none
  | .fixed port => some port
  | .sent => some sent

/-- Payload bytes in a script. -/
inductive ScriptedBytes where
  | fixed (bytes : List UInt8)
  /-- The front of the payload that was just sent. -/
  | echo
  deriving DecidableEq, Repr

def ScriptedBytes.resolve (sent : Payload) : ScriptedBytes → List UInt8
  | .fixed bytes => bytes
  | .echo => sent.leading

inductive Note where
  | notification (after : Int) (port : ScriptedPort) (payload : ScriptedBytes)
      (error : Option ExtendedError) (receivedTtl : Option UInt8)
  | refusal (cause : IoFailure)
  deriving DecidableEq, Repr

/-- What the error queue holds. -/
abbrev QueuedNote := Except IoFailure Notification

def Note.queued (clock : Instant) (payload : Payload) (port : UInt16) : Note → QueuedNote
  | .notification after notePort notePayload error receivedTtl => .ok
      { received := clock.later after
        port := notePort.resolve port
        payload := notePayload.resolve payload
        error
        receivedTtl }
  | .refusal cause => .error cause

/-- How a scripted network refuses a probe. -/
inductive Refusal where
  | send (errno : Errno)
  | io (cause : IoFailure)
  deriving DecidableEq, Repr

structure ScriptEntry where
  tick : Nat
  refusal : Option Refusal
  readable : Except IoFailure Bool
  reply : Except IoFailure (Option Nat)
  notes : List Note

def ScriptEntry.empty : ScriptEntry := ⟨0, none, .ok false, .ok none, []⟩

structure ScriptedNetwork where
  clock : Instant
  script : List ScriptEntry
  queue : List QueuedNote
  readable : Except IoFailure Bool
  reply : Except IoFailure (Option Nat)
  ttlRefusals : UInt8 → Option Errno

namespace ScriptedNetwork

def start (clock : Instant) (script : List ScriptEntry)
    (ttlRefusals : UInt8 → Option Errno) : ScriptedNetwork :=
  { clock, script, queue := [], readable := .ok false, reply := .ok none, ttlRefusals }

def enqueue (s : ScriptedNetwork) (notes : List QueuedNote) : ScriptedNetwork :=
  { s with queue := s.queue ++ notes }

/-- The target that a refused probe names. -/
def target : IpAddress := .v4 (.ofOctets 192 0 2 1)

def refused {σ α : Type} (answer : Except IoFailure α) (s : σ) : EStateM.Result Failure σ α :=
  match answer with
  | .ok a => .ok a s
  | .error cause => .error (.io cause) s

def setTtl (ttl : UInt8) (s : ScriptedNetwork) : EStateM.Result Failure ScriptedNetwork Unit :=
  match s.ttlRefusals ttl with
  | none => .ok () s
  | some errno => .error (.io (.call errno .setTtl)) s

def send (payload : Payload) (port : UInt16) (s : ScriptedNetwork) :
    EStateM.Result Failure ScriptedNetwork Unit :=
  let entry := s.script.headD ScriptEntry.empty
  let clock := s.clock.later entry.tick
  let s := { s with
    clock
    script := s.script.tail
    queue := s.queue ++ entry.notes.map (·.queued clock payload port)
    readable := entry.readable
    reply := entry.reply }
  match entry.refusal with
  | none => .ok () s
  | some (.send errno) => .error (.probeFailed (.send errno { address := target, port })) s
  | some (.io cause) => .error (.io cause) s

def receiveNotification (s : ScriptedNetwork) :
    EStateM.Result Failure ScriptedNetwork (Option Notification) :=
  match s.queue with
  | [] => .ok none s
  | note :: queue => refused (note.map some) { s with queue }

theorem length_queue_lt {s s' : ScriptedNetwork} {n : Notification}
    (h : receiveNotification s = .ok (some n) s') : s'.queue.length < s.queue.length := by
  unfold receiveNotification at h
  split at h
  · injection h with h₁ h₂
    exact absurd h₁ (by simp)
  · next note queue e =>
    cases note with
    | error _ => simp [refused, Except.map] at h
    | ok m =>
      simp only [refused, Except.map, EStateM.Result.ok.injEq] at h
      simp [← h.2, e]

end ScriptedNetwork

/-- The scripted network as a network. -/
def scriptedNetwork : Network ScriptedNetwork where
  now s := (s.clock, s)
  setTtl := ScriptedNetwork.setTtl
  send := ScriptedNetwork.send
  awaitReadable _ s := ScriptedNetwork.refused s.readable s
  receiveReply s := ScriptedNetwork.refused s.reply { s with reply := .ok none }
  receiveNotification := ScriptedNetwork.receiveNotification
  pending s := s.queue.length
  pending_lt := ScriptedNetwork.length_queue_lt

end HopTrace.Simulation
