import HopTrace.Network

/-!
# Journals

A journal is a state together with everything that has been asked of it, oldest first. A
recorded network answers exactly as the network it is made from and writes each call down
before making it; publishing an event and looking up a name are written down in the same
order. Recording changes no answer and no number of pending notifications.
-/
namespace HopTrace

structure Journal (ι σ : Type) where
  entries : Array ι
  inner : σ

namespace Journal

variable {ι σ ε α : Type}

def start (s : σ) : Journal ι σ := ⟨#[], s⟩

def write (entry : ι) (j : Journal ι σ) : Journal ι σ := { j with entries := j.entries.push entry }

/-- The entries written so far, leaving none behind. -/
def collect (j : Journal ι σ) : List ι × Journal ι σ := (j.entries.toList, { j with entries := #[] })

/-- An operation on the inner state, written down first. -/
def perform (entry : ι) (act : EStateM ε σ α) : EStateM ε (Journal ι σ) α := fun j =>
  match act j.inner with
  | .ok a s => .ok a { entries := j.entries.push entry, inner := s }
  | .error e s => .error e { entries := j.entries.push entry, inner := s }

/-- An operation on the inner state that cannot fail and is not written down. -/
def sense (act : σ → α × σ) (j : Journal ι σ) : α × Journal ι σ :=
  let (a, s) := act j.inner
  (a, { j with inner := s })

@[simp] theorem inner_write (entry : ι) (j : Journal ι σ) : (j.write entry).inner = j.inner := rfl

theorem perform_eq_ok {entry : ι} {act : EStateM ε σ α} {j j' : Journal ι σ} {a : α}
    (h : perform entry act j = .ok a j') : act j.inner = .ok a j'.inner := by
  unfold perform at h
  split at h
  · next e =>
    injection h with h₁ h₂
    subst h₁ h₂
    exact e
  · injection h

theorem perform_eq_error {entry : ι} {act : EStateM ε σ α} {j j' : Journal ι σ} {x : ε}
    (h : perform entry act j = .error x j') : act j.inner = .error x j'.inner := by
  unfold perform at h
  split at h
  · injection h
  · next e =>
    injection h with h₁ h₂
    subst h₁ h₂
    exact e

end Journal

inductive NetworkCall where
  | setTtl (ttl : UInt8)
  | send (payload : Payload) (port : UInt16)
  | awaitReadable (limit : Span)
  | receiveReply
  | receiveNotification
  deriving DecidableEq, Repr

/-- What a trace does besides calling the network. -/
inductive Observation where
  | resolve (address : IpAddress)
  | event (event : Event)
  deriving DecidableEq, Repr

variable {ι σ : Type}

def Network.recorded (n : Network σ) (mark : NetworkCall → ι) : Network (Journal ι σ) where
  now := Journal.sense n.now
  setTtl ttl := Journal.perform (mark (.setTtl ttl)) (n.setTtl ttl)
  send payload port := Journal.perform (mark (.send payload port)) (n.send payload port)
  awaitReadable limit := Journal.perform (mark (.awaitReadable limit)) (n.awaitReadable limit)
  receiveReply := Journal.perform (mark .receiveReply) n.receiveReply
  receiveNotification := Journal.perform (mark .receiveNotification) n.receiveNotification
  pending j := n.pending j.inner
  pending_lt h := n.pending_lt (Journal.perform_eq_ok h)

/-- Names looked up by a function and events published by writing them down. -/
def Audience.journal (pending : σ → Nat) (names : IpAddress → Option String)
    (mark : Observation → ι) : Audience (Journal ι σ) (fun j => pending j.inner) where
  resolve a j := (names a, j.write (mark (.resolve a)))
  publish e j := j.write (mark (.event e))
  pending_resolve_le _ _ := Nat.le_refl _
  pending_publish_le _ _ := Nat.le_refl _

/-- Everything a world is asked, written down. -/
def World.recorded (w : World σ) (call : NetworkCall → ι) (mark : Observation → ι) :
    World (Journal ι σ) where
  toNetwork := w.toNetwork.recorded call
  resolve a j :=
    let (name, s) := w.resolve a j.inner
    (name, { entries := j.entries.push (mark (.resolve a)), inner := s })
  publish e j := { entries := j.entries.push (mark (.event e)), inner := w.publish e j.inner }
  pending_resolve_le a j := w.pending_resolve_le a j.inner
  pending_publish_le e j := w.pending_publish_le e j.inner

end HopTrace
