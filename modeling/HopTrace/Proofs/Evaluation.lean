import HopTrace.Proofs.Execution

/-!
# Traces by computation

The loop over one ttl ends by a pair of numbers, and a recursion on pairs does not compute.
Here the loop has a bound on its attempts besides, so a trace over a concrete network can
be evaluated. An evaluation that its bound does not cut short is the trace itself.
-/
namespace HopTrace

variable {σ : Type}

section Result
variable {ε α : Type}

def answer? : EStateM.Result ε σ α → Option α
  | .ok a _ => some a
  | .error _ _ => none

def failure? : EStateM.Result ε σ α → Option ε
  | .ok _ _ => none
  | .error e _ => some e

theorem answer?_eq_some_iff {r : EStateM.Result ε σ α} {a : α} :
    answer? r = some a ↔ ∃ s, r = .ok a s := by
  cases r <;> simp [answer?]

theorem failure?_eq_some_iff {r : EStateM.Result ε σ α} {e : ε} :
    failure? r = some e ↔ ∃ s, r = .error e s := by
  cases r <;> simp [failure?]

end Result

/-- `World.probeTtlFrom` with at most `bound` attempts. -/
def World.probeTtlWithin (w : World σ) (ttl : UInt8) :
    (bound left : Nat) → Tracing σ →
      Option (EStateM.Result Failure (Tracing σ) (Option Completion))
  | _, 0, t => some (.ok none { t with world := w.publish (.noReply ttl) t.world })
  | 0, _ + 1, _ => none
  | bound + 1, left + 1, t =>
    match w.sendProbe ttl t with
    | .error e t' => some (.error e t')
    | .ok outcome t' =>
      if t'.session.mtu ≠ t.session.mtu then w.probeTtlWithin ttl bound maxTtlAttempts t'
      else match Completion.ofOutcome? outcome with
        | some completion => some (.ok (some completion) t')
        | none =>
          if outcome = .decoded .progress then some (.ok none t')
          else w.probeTtlWithin ttl bound left t'

/-- `World.traceOver` with at most `bound` attempts at each ttl. -/
def World.traceOverWithin (w : World σ) (bound : Nat) :
    List UInt8 → Tracing σ → Option (EStateM.Result Failure (Tracing σ) Completion)
  | [], t => some (.ok .tooManyHops t)
  | ttl :: rest, t =>
    match Step.world (w.setTtl ttl) t with
    | .error e t' => some (.error e t')
    | .ok () t₁ =>
      match w.probeTtlWithin ttl bound maxTtlAttempts t₁ with
      | none => none
      | some (.error e t') => some (.error e t')
      | some (.ok (some completion) t') => some (.ok completion t')
      | some (.ok none t') => w.traceOverWithin bound rest t'

/-- `World.trace` with at most `bound` attempts at each ttl. -/
def World.traceWithin (w : World σ) (bound : Nat) (t : Tracing σ) :
    Option (EStateM.Result Failure (Tracing σ) Summary) :=
  match w.traceOverWithin bound t.session.ttls t with
  | none => none
  | some (.error e t') => some (.error e t')
  | some (.ok completion t') => some (.ok (t'.session.summary completion) t')

section
variable {w : World σ} {t : Tracing σ} {bound : Nat}

theorem World.probeTtlFrom_of_within {ttl : UInt8} {left : Nat}
    {r : EStateM.Result Failure (Tracing σ) (Option Completion)}
    (h : w.probeTtlWithin ttl bound left t = some r) : w.probeTtlFrom ttl left t = r := by
  fun_induction World.probeTtlWithin w ttl bound left t with
  | case1 bound t =>
    injection h with h
    rw [World.probeTtlFrom_zero, h]
  | case2 => cases h
  | case3 bound left t e t' sent =>
    injection h with h
    rw [World.probeTtlFrom_succ, sent]
    exact h
  | case4 bound left t outcome t' sent changed ih =>
    rw [World.probeTtlFrom_succ, sent]
    simp only [if_pos changed]
    exact ih h
  | case5 bound left t outcome t' sent same completion ended =>
    injection h with h
    rw [World.probeTtlFrom_succ, sent]
    simp only [if_neg same, ended]
    exact h
  | case6 bound left t t' same sent ended =>
    injection h with h
    rw [World.probeTtlFrom_succ, sent]
    simp only [if_neg same, ended, if_true]
    exact h
  | case7 bound left t outcome t' sent same ended stuck ih =>
    rw [World.probeTtlFrom_succ, sent]
    simp only [if_neg same, ended, if_neg stuck]
    exact ih h

theorem World.probeTtl_seen {β : Type} {ttl : UInt8}
    {f : EStateM.Result Failure (Tracing σ) (Option Completion) → β} {b : β}
    (h : (w.probeTtlWithin ttl bound maxTtlAttempts t).map f = some b) :
    f (w.probeTtl ttl t) = b := by
  obtain ⟨r, within, rfl⟩ := Option.map_eq_some_iff.mp h
  rw [World.probeTtl, World.probeTtlFrom_of_within within]

theorem World.traceOver_of_within {ttls : List UInt8}
    {r : EStateM.Result Failure (Tracing σ) Completion}
    (h : w.traceOverWithin bound ttls t = some r) : w.traceOver ttls t = r := by
  induction ttls generalizing t with
  | nil => injection h with h
  | cons ttl rest ih =>
    rw [World.traceOverWithin] at h
    simp only [World.traceOver, Bind.bind, EStateM.bind, World.probeTtl]
    cases set : Step.world (w.setTtl ttl) t with
    | error e t' =>
      rw [set] at h
      injection h with h
    | ok u t₁ =>
      rw [set] at h
      dsimp only at h ⊢
      cases probed : w.probeTtlWithin ttl bound maxTtlAttempts t₁ with
      | none => simp [probed] at h
      | some found =>
        rw [World.probeTtlFrom_of_within probed]
        rw [probed] at h
        cases found with
        | error e t' => injection h with h
        | ok found t' =>
          cases found with
          | some completion => injection h with h
          | none => exact ih h

theorem World.trace_of_within {r : EStateM.Result Failure (Tracing σ) Summary}
    (h : w.traceWithin bound t = some r) : w.trace t = r := by
  unfold World.traceWithin at h
  simp only [World.trace, Step.session, Bind.bind, EStateM.bind]
  cases traced : w.traceOverWithin bound t.session.ttls t with
  | none => simp [traced] at h
  | some found =>
    rw [World.traceOver_of_within traced]
    rw [traced] at h
    cases found with
    | error e t' => injection h with h
    | ok completion t' => injection h with h

/-- What is seen of an evaluation is seen of the trace. -/
theorem World.trace_seen {β : Type} {f : EStateM.Result Failure (Tracing σ) Summary → β} {b : β}
    (h : (w.traceWithin bound t).map f = some b) : f (w.trace t) = b := by
  obtain ⟨r, within, rfl⟩ := Option.map_eq_some_iff.mp h
  rw [World.trace_of_within within]

end

end HopTrace
