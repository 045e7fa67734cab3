import HopTrace.Probe

/-!
# Tracing a path

A trace probes one ttl after another, from 1 to the maximum of the session. A ttl is
given up after three probes that bring nothing. Lowering the path MTU starts the count
anew, whatever else the same probe brought, so the loop over one ttl ends by the pair of
the path MTU and the probes left.
-/
namespace HopTrace

/-- What ended a trace. -/
inductive Completion where
  | reached
  | replyReceived
  | sendFailed
  | hardError
  | tooManyHops
  deriving DecidableEq, Repr

def Completion.ofOutcome? : ProbeOutcome → Option Completion
  | .decoded .reached => some .reached
  | .decoded .hardError => some .hardError
  | .replyReceived => some .replyReceived
  | .sendFailed => some .sendFailed
  | .decoded _ => none

structure Summary where
  pmtu : UInt32
  hopsTo : Option UInt8
  hopsFrom : Option UInt8
  completion : Completion
  deriving DecidableEq, Repr

def maxTtlAttempts : Nat := 3

variable {σ : Type}

/-- Probes one ttl with `left` probes to spare. The answer is what ended the trace, or
nothing when the next ttl is to be probed. -/
def World.probeTtlFrom (w : World σ) (ttl : UInt8) (left : Nat) (t : Tracing σ) :
    EStateM.Result Failure (Tracing σ) (Option Completion) :=
  match left with
  | 0 => .ok none { t with world := w.publish (.noReply ttl) t.world }
  | left + 1 =>
    match _ : w.sendProbe ttl t with
    | .error e t' => .error e t'
    | .ok outcome t' =>
      if _ : t'.session.mtu ≠ t.session.mtu then
        w.probeTtlFrom ttl maxTtlAttempts t'
      else
        match Completion.ofOutcome? outcome with
        | some completion => .ok (some completion) t'
        | none =>
          if outcome = .decoded .progress then .ok none t'
          else w.probeTtlFrom ttl left t'
termination_by (t.session.mtu.toNat, left)
decreasing_by
  · have h := w.neverRaises_sendProbe ttl t
    rw [‹w.sendProbe ttl t = _›] at h
    have h' : t'.session.mtu.toNat ≤ t.session.mtu.toNat := h
    have ne : t'.session.mtu.toNat ≠ t.session.mtu.toNat := fun e =>
      ‹t'.session.mtu ≠ t.session.mtu› (UInt32.toNat_inj.mp e)
    exact Prod.Lex.left _ _ (by omega)
  · have e : t'.session.mtu = t.session.mtu := by
      simpa using ‹¬t'.session.mtu ≠ t.session.mtu›
    rw [e]
    exact Prod.Lex.right _ (Nat.lt_succ_self _)

def World.probeTtl (w : World σ) (ttl : UInt8) : Step σ (Option Completion) :=
  w.probeTtlFrom ttl maxTtlAttempts

/-- Probes the given ttls in turn. -/
def World.traceOver (w : World σ) : List UInt8 → Step σ Completion
  | [] => pure .tooManyHops
  | ttl :: rest => do
    Step.world (w.setTtl ttl)
    match ← w.probeTtl ttl with
    | some completion => return completion
    | none => w.traceOver rest

/-- Traces the whole path. -/
def World.trace (w : World σ) : Step σ Summary := do
  let completion ← w.traceOver (← Step.session).ttls
  let session ← Step.session
  return ⟨session.mtu, session.hopsTo, session.hopsFrom, completion⟩

end HopTrace
