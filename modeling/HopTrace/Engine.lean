import HopTrace.Network
import HopTrace.Session

/-!
# Steps of a running trace

A running trace is a session and the state of the world beside it. A step acts on both
and may fail, leaving both as they were when it failed. Besides the four ways to build a
step from an operation on one half, this module has one fact to offer about steps: what
never raises the path MTU, and that such steps compose.
-/
namespace HopTrace

structure Tracing (σ : Type) where
  session : Session
  world : σ

abbrev Step (σ α : Type) := EStateM Failure (Tracing σ) α

/-- The state an operation ends in, whether it fails or not. -/
def finalState {ε σ α : Type} : EStateM.Result ε σ α → σ
  | .ok _ s => s
  | .error _ s => s

@[simp] theorem finalState_ok {ε σ α : Type} (a : α) (s : σ) :
    finalState (.ok a s : EStateM.Result ε σ α) = s := rfl

@[simp] theorem finalState_error {ε σ α : Type} (e : ε) (s : σ) :
    finalState (.error e s : EStateM.Result ε σ α) = s := rfl

namespace Step

variable {σ α β : Type}

/-- An operation on the world. -/
def world (act : EStateM Failure σ α) : Step σ α := fun t =>
  match act t.world with
  | .ok a s => .ok a { t with world := s }
  | .error e s => .error e { t with world := s }

/-- An operation on the world that cannot fail. -/
def sense (act : σ → α × σ) : Step σ α := fun t =>
  let (a, s) := act t.world
  .ok a { t with world := s }

def publish (w : World σ) (e : Event) : Step σ Unit := fun t =>
  .ok () { t with world := w.publish e t.world }

def update (f : Session → Session) : Step σ Unit := fun t =>
  .ok () { t with session := f t.session }

def session : Step σ Session := fun t => .ok t.session t

/-- The step never leaves a higher path MTU behind, whether it fails or not. -/
def NeverRaises (m : Step σ α) : Prop :=
  ∀ t, (finalState (m t)).session.mtu ≤ t.session.mtu

theorem neverRaises_pure (a : α) : NeverRaises (pure a : Step σ α) := fun _ => UInt32.le_refl _

theorem NeverRaises.bind {m : Step σ α} {f : α → Step σ β} (hm : NeverRaises m)
    (hf : ∀ a, NeverRaises (f a)) : NeverRaises (m >>= f) := by
  intro t
  have h := hm t
  simp only [Bind.bind, EStateM.bind]
  split
  · next a s e =>
    rw [e] at h
    exact UInt32.le_trans (hf a s) h
  · next x s e =>
    rw [e] at h
    exact h

theorem neverRaises_world (act : EStateM Failure σ α) : NeverRaises (world act) := by
  intro t
  unfold world
  split <;> exact UInt32.le_refl _

theorem neverRaises_sense (act : σ → α × σ) : NeverRaises (sense act) :=
  fun _ => UInt32.le_refl _

theorem neverRaises_publish (w : World σ) (e : Event) : NeverRaises (publish w e) :=
  fun _ => UInt32.le_refl _

theorem neverRaises_session : NeverRaises (session : Step σ Session) :=
  fun _ => UInt32.le_refl _

theorem neverRaises_update {f : Session → Session} (hf : ∀ s, (f s).mtu ≤ s.mtu) :
    NeverRaises (update f : Step σ Unit) :=
  fun t => hf t.session

end Step

end HopTrace
