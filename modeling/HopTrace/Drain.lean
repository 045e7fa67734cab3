import HopTrace.Engine

/-!
# Draining the error queue

A drain reads notifications until the queue is empty, publishing one event for each. It
stops early at a notification that ends the trace, and at one that carries no extended
error. It ends because reading a notification lowers the number of those pending, and
neither looking up a name nor publishing an event raises it.
-/
namespace HopTrace

inductive DrainOutcome where
  /-- The target was reached. -/
  | reached
  /-- A notification ended the trace. -/
  | hardError
  /-- The path MTU was lowered. -/
  | mtuChanged
  /-- At least one notification was decoded. -/
  | progress
  | exhausted
  deriving DecidableEq, Repr

namespace DrainOutcome

def isTerminal : DrainOutcome → Bool
  | .reached | .hardError => true
  | _ => false

/-- What a status stops a drain with. -/
def ofStatus? (status : HopStatus) : Option DrainOutcome :=
  if status = .reached then some .reached
  else if status.isTerminal then some .hardError
  else none

end DrainOutcome

variable {σ : Type}

/-- Decodes one notification and names its responder. -/
def World.decode (w : World σ) (ttl : UInt8) (n : Notification) : Step σ (Option Hop) := fun t =>
  match t.session.decode ttl n with
  | .error e s => .error e { t with session := s }
  | .ok none s => .ok none { t with session := s }
  | .ok (some hop) s =>
    let (responder, world) := w.name s.mode hop.responder t.world
    .ok (some { hop with responder }) { session := s, world }

theorem World.pending_decode_le (w : World σ) (ttl : UInt8) (n : Notification) (t : Tracing σ) :
    w.pending (finalState (w.decode ttl n t)).world ≤ w.pending t.world := by
  unfold World.decode
  split
  · exact Nat.le_refl _
  · exact Nat.le_refl _
  · exact w.pending_name_le _ _ _

theorem Session.mtu_matchProbe (s : Session) (n : Notification) :
    (finalState (s.matchProbe n)).mtu = s.mtu := by
  unfold Session.matchProbe
  split <;> simp

theorem Session.mtu_decode_le (ttl : UInt8) (n : Notification) (s : Session) :
    (finalState (s.decode ttl n)).mtu ≤ s.mtu := by
  have h := s.mtu_matchProbe n
  unfold Session.decode
  split
  · next e =>
    rw [e] at h
    exact UInt32.le_of_eq h
  · next e =>
    rw [e] at h
    split
    · exact UInt32.le_of_eq h
    · exact UInt32.le_trans (Session.mtu_learn_le _ _ _ _) (UInt32.le_of_eq h)

theorem World.neverRaises_decode (w : World σ) (ttl : UInt8) (n : Notification) :
    Step.NeverRaises (w.decode ttl n) := by
  intro t
  have h := t.session.mtu_decode_le ttl n
  unfold World.decode
  split <;> next e => rw [e] at h; exact h

/-- Drains the queue of a trace whose path MTU was `initial` when the drain began.
`progress` says whether a notification has been decoded before. -/
def World.drainFrom (w : World σ) (ttl : UInt8) (initial : UInt32) (progress : Bool)
    (t : Tracing σ) : EStateM.Result Failure (Tracing σ) DrainOutcome :=
  match _ : w.receiveNotification t.world with
  | .error e world => .error e { t with world }
  | .ok none world =>
    .ok (if t.session.mtu < initial then .mtuChanged
      else if progress then .progress else .exhausted) { t with world }
  | .ok (some n) world =>
    match _ : w.decode ttl n { t with world } with
    | .error e t' => .error e t'
    | .ok none t' => .ok .exhausted { t' with world := w.publish .noInfo t'.world }
    | .ok (some hop) t' =>
      let published := { t' with world := w.publish (.hop hop) t'.world }
      match DrainOutcome.ofStatus? hop.status with
      | some outcome => .ok outcome published
      | none => w.drainFrom ttl initial true published
termination_by w.pending t.world
decreasing_by
  have h₁ := w.pending_lt ‹w.receiveNotification t.world = _›
  have h₂ := w.pending_decode_le ttl n { t with world }
  rw [‹w.decode ttl n _ = _›] at h₂
  exact Nat.lt_of_le_of_lt (w.pending_publish_le _ _) (Nat.lt_of_le_of_lt h₂ h₁)

def World.drain (w : World σ) (ttl : UInt8) : Step σ DrainOutcome := fun t =>
  w.drainFrom ttl t.session.mtu false t

theorem World.mtu_drainFrom_le (w : World σ) (ttl : UInt8) (initial : UInt32) (progress : Bool)
    (t : Tracing σ) :
    (finalState (w.drainFrom ttl initial progress t)).session.mtu ≤ t.session.mtu := by
  fun_induction World.drainFrom w ttl initial progress t with
  | case1 => exact UInt32.le_refl _
  | case2 => exact UInt32.le_refl _
  | case3 _ t n world read e t' decoded =>
    have h := w.neverRaises_decode ttl n { t with world }
    rw [decoded] at h
    exact h
  | case4 _ t n world read t' decoded =>
    have h := w.neverRaises_decode ttl n { t with world }
    rw [decoded] at h
    exact h
  | case5 _ t n world read hop t' decoded published outcome =>
    have h := w.neverRaises_decode ttl n { t with world }
    rw [decoded] at h
    exact h
  | case6 _ t n world read hop t' decoded published _ ih =>
    have h := w.neverRaises_decode ttl n { t with world }
    rw [decoded] at h
    exact UInt32.le_trans ih h

theorem World.neverRaises_drain (w : World σ) (ttl : UInt8) : Step.NeverRaises (w.drain ttl) :=
  fun t => w.mtu_drainFrom_le ttl t.session.mtu false t

end HopTrace
