import HopTrace.Proofs.Evaluation
import HopTrace.Proofs.Transcript
import HopTrace.Simulation.Network

/-!
# When a ttl is settled

The loop over one ttl counts down from three and starts anew whenever the path MTU was
lowered. The rule it follows can be said without a counter: the attempts are made one after
another until the last of them failed, or left the path MTU alone and brought something, or
the last three all left it alone and found the error queue empty.

An attempt that lowered the path MTU therefore wipes out whatever came before it. The
outcome that reports a lowered path MTU is always one of those.
-/
namespace HopTrace

variable {σ : Type}

/-- The first `n` attempts at a ttl, each from the state in which the one before it left. -/
def World.attempts (w : World σ) (ttl : UInt8) : Nat → Tracing σ → List (Attempt σ)
  | 0, _ => []
  | n + 1, t => ⟨ttl, t⟩ :: w.attempts ttl n (finalState (w.sendProbe ttl t))

namespace Attempt

def Failed (w : World σ) (a : Attempt σ) : Prop := ∃ e, failure? (a.result w) = some e

/-- The attempt left the path MTU as it was and found nothing. -/
def Idle (w : World σ) (a : Attempt σ) : Prop :=
  a.lowers w = false ∧ answer? (a.result w) = some (.decoded .exhausted)

/-- The attempt left the path MTU as it was and did find something. -/
def Decisive (w : World σ) (a : Attempt σ) : Prop :=
  a.lowers w = false ∧
    ∃ outcome, answer? (a.result w) = some outcome ∧ outcome ≠ .decoded .exhausted

end Attempt

/-- The last three attempts found nothing. -/
def Spent (w : World σ) (as : List (Attempt σ)) : Prop :=
  ∃ idle, idle <:+ as ∧ idle.length = 3 ∧ ∀ a ∈ idle, a.Idle w

/-- No attempt is to follow those that were made. -/
def Conclusive (w : World σ) (as : List (Attempt σ)) : Prop :=
  (∃ a, as.getLast? = some a ∧ (a.Failed w ∨ a.Decisive w)) ∨ Spent w as

/-- What ends a trace, and as what it ends it. -/
inductive Completes : ProbeOutcome → Completion → Prop
  | reached : Completes (.decoded .reached) .reached
  | hardError : Completes (.decoded .hardError) .hardError
  | replyReceived : Completes .replyReceived .replyReceived
  | sendFailed : Completes .sendFailed .sendFailed

theorem completes_iff {outcome : ProbeOutcome} {completion : Completion} :
    Completes outcome completion ↔ Completion.ofOutcome? outcome = some completion := by
  constructor
  · intro h
    cases h <;> rfl
  · intro ended
    cases outcome with
    | replyReceived =>
      cases ended
      exact .replyReceived
    | sendFailed =>
      cases ended
      exact .sendFailed
    | decoded outcome =>
      cases outcome with
      | reached =>
        cases ended
        exact .reached
      | hardError =>
        cases ended
        exact .hardError
      | _ => cases ended

/-- How a ttl ends with the attempts that settled it. Only the attempts themselves have
published anything, except where they are spent. -/
inductive Verdict (w : World σ) (ttl : UInt8) (as : List (Attempt σ)) :
    EStateM.Result Failure (Tracing σ) (Option Completion) → Prop
  | failed {a e t} : as.getLast? = some a → a.result w = .error e t →
      Verdict w ttl as (.error e t)
  | done {a outcome completion t} : as.getLast? = some a → a.result w = .ok outcome t →
      a.lowers w = false → Completes outcome completion →
      Verdict w ttl as (.ok (some completion) t)
  | advanced {a t} : as.getLast? = some a → a.result w = .ok (.decoded .progress) t →
      a.lowers w = false →
      Verdict w ttl as (.ok none t)
  | unanswered {a} : as.getLast? = some a → Spent w as →
      Verdict w ttl as (.ok none
        { finalState (a.result w) with
          world := w.publish (.noReply ttl) (finalState (a.result w)).world })

section Lowering
variable {w : World σ} {ttl : UInt8} {t t' : Tracing σ}

/-- A drain that reports a lower path MTU has left one behind. -/
theorem DrainExec.mtu_lt {initial : UInt32} {progress : Bool}
    {r : EStateM.Result Failure (Tracing σ) DrainOutcome}
    (h : DrainExec w ttl initial progress t r) (changed : r = .ok .mtuChanged t') :
    t'.session.mtu < initial := by
  induction h with
  | failed _ => cases changed
  | uninformed _ => cases changed
  | decoded _ _ _ ih => exact ih changed
  | stopped _ stop =>
    injection changed with same _
    subst same
    unfold DrainOutcome.ofStatus? at stop
    split at stop
    · cases stop
    · split at stop <;> cases stop
  | emptied _ =>
    injection changed with same state
    subst state
    unfold DrainOutcome.atEnd at same
    split at same
    · assumption
    · split at same <;> cases same

theorem sendProbe_mtu_lt (sent : w.sendProbe ttl t = .ok (.decoded .mtuChanged) t') :
    t'.session.mtu < t.session.mtu := by
  have exec := w.sendProbe_exec ttl t
  rw [sent] at exec
  have launch := w.launch_exec ttl t.session.history.cursor maxSendAttempts t
  have unraised := w.neverRaises_launch ttl t.session.history.cursor maxSendAttempts t
  cases exec with
  | @sent u _ launched collected =>
    rw [launched] at unraised
    cases collected with
    | @drained readable t₁ t₂ _ _ awaited answered drained =>
      have drain := w.drain_exec ttl t₂
      rw [drained] at drain
      have lower : t'.session.mtu < t₂.session.mtu := drain.mtu_lt rfl
      have same : t₂.session.mtu = u.session.mtu := by
        have waited := congrArg Session.mtu (session_world awaited)
        have looked := congrArg Session.mtu (session_world answered)
        exact looked.trans waited
      rw [same] at lower
      exact UInt32.lt_of_lt_of_le lower unraised
  | ended launched =>
    -- A drain between two attempts to send ends the probe only with a terminal outcome.
    have terminal := launch.terminal launched
    cases terminal

/-- The outcome of a lowered path MTU is never the outcome of an attempt that left it. -/
theorem lowers_of_mtuChanged {a : Attempt σ}
    (changed : answer? (a.result w) = some (.decoded .mtuChanged)) : a.lowers w = true := by
  obtain ⟨t', sent⟩ := answer?_eq_some_iff.mp changed
  unfold Attempt.lowers
  rw [sent]
  exact decide_eq_true (sendProbe_mtu_lt sent)

/-- An attempt that left the path MTU as it was is seen to have done so in its final state. -/
theorem lowers_of_eq {outcome : ProbeOutcome} (sent : w.sendProbe ttl t = .ok outcome t')
    (same : t'.session.mtu = t.session.mtu) : Attempt.lowers w ⟨ttl, t⟩ = false := by
  unfold Attempt.lowers Attempt.result
  rw [sent, finalState_ok, same]
  exact decide_eq_false (UInt32.lt_irrefl _)

end Lowering

section Conclusive
variable {w : World σ} {ttl : UInt8} {as bs : List (Attempt σ)} {a : Attempt σ}

theorem Attempt.not_failed {outcome : ProbeOutcome}
    (answered : answer? (a.result w) = some outcome) : ¬a.Failed w := by
  intro ⟨e, failed⟩
  obtain ⟨t, ended⟩ := answer?_eq_some_iff.mp answered
  obtain ⟨u, broken⟩ := failure?_eq_some_iff.mp failed
  rw [ended] at broken
  cases broken

theorem Attempt.Idle.not_decisive (h : a.Idle w) : ¬a.Decisive w := by
  intro ⟨_, outcome, answered, found⟩
  have same := h.2
  rw [answered] at same
  injection same with same
  exact found same

theorem not_spent_of_length_lt (few : as.length < 3) : ¬Spent w as := by
  intro ⟨idle, last, three, _⟩
  have bound := last.length_le
  omega

theorem inconclusive_of_idle (idle : ∀ a ∈ as, a.Idle w) (few : as.length < 3) :
    ¬Conclusive w as := by
  intro conclusive
  cases conclusive with
  | inr spent => exact not_spent_of_length_lt few spent
  | inl last =>
    obtain ⟨a, last, reason⟩ := last
    have quiet := idle a (List.mem_of_getLast? last)
    cases reason with
    | inl failed => exact Attempt.not_failed quiet.2 failed
    | inr decisive => exact quiet.not_decisive decisive

theorem Spent.append (h : Spent w bs) (as : List (Attempt σ)) : Spent w (as ++ bs) := by
  obtain ⟨idle, last, three, quiet⟩ := h
  exact ⟨idle, last.trans (List.suffix_append as bs), three, quiet⟩

theorem getLast?_append_of_some (as : List (Attempt σ)) (last : bs.getLast? = some a) :
    (as ++ bs).getLast? = some a := by
  rw [List.getLast?_append, last]
  rfl

/-- Three idle attempts in a row have all been made since the path MTU was last lowered. -/
theorem spent_append_iff (lowered : a.lowers w = true) :
    Spent w (as ++ a :: bs) ↔ Spent w bs := by
  have busy : ¬a.Idle w := by
    intro quiet
    rw [quiet.1] at lowered
    cases lowered
  constructor
  · intro ⟨idle, last, three, quiet⟩
    have tail : a :: bs <:+ as ++ a :: bs := List.suffix_append _ _
    rcases List.suffix_or_suffix_of_suffix last tail with short | long
    · rcases List.suffix_cons_iff.mp short with same | later
      · subst same
        exact absurd (quiet a List.mem_cons_self) busy
      · exact ⟨idle, later, three, quiet⟩
    · exact absurd (quiet a (long.subset List.mem_cons_self)) busy
  · intro spent
    have longer := spent.append (as ++ [a])
    rwa [List.append_assoc, List.singleton_append] at longer

/-- An attempt that lowered the path MTU settles nothing, and what came before it does not
count any more. -/
theorem conclusive_append_iff {outcome : ProbeOutcome} (lowered : a.lowers w = true)
    (answered : answer? (a.result w) = some outcome) :
    Conclusive w (as ++ a :: bs) ↔ Conclusive w bs := by
  unfold Conclusive
  rw [spent_append_iff lowered]
  cases bs with
  | cons b bs =>
    rw [List.getLast?_append, List.getLast?_cons_cons, List.getLast?_cons, Option.some_or]
  | nil =>
    have undecided : ¬(a.Failed w ∨ a.Decisive w) := by
      intro reason
      cases reason with
      | inl failed => exact Attempt.not_failed answered failed
      | inr decisive =>
        rw [decisive.1] at lowered
        cases lowered
    constructor
    · intro conclusive
      cases conclusive with
      | inr spent => exact .inr spent
      | inl last =>
        obtain ⟨b, last, reason⟩ := last
        rw [List.getLast?_append, List.getLast?_singleton, Option.some_or] at last
        injection last with same
        exact absurd (same ▸ reason) undecided
    · intro conclusive
      cases conclusive with
      | inr spent => exact .inr spent
      | inl last =>
        obtain ⟨b, last, _⟩ := last
        cases last

end Conclusive

namespace Verdict
variable {w : World σ} {ttl : UInt8} {as bs : List (Attempt σ)}
variable {r : EStateM.Result Failure (Tracing σ) (Option Completion)}

theorem append (h : Verdict w ttl bs r) (as : List (Attempt σ)) : Verdict w ttl (as ++ bs) r := by
  cases h with
  | failed last broken => exact .failed (getLast?_append_of_some as last) broken
  | done last sent kept ended => exact .done (getLast?_append_of_some as last) sent kept ended
  | advanced last sent kept => exact .advanced (getLast?_append_of_some as last) sent kept
  | unanswered last spent => exact .unanswered (getLast?_append_of_some as last) (spent.append as)

theorem conclusive (h : Verdict w ttl as r) : Conclusive w as := by
  cases h with
  | @failed a e t last broken =>
    have failed : a.Failed w := ⟨e, failure?_eq_some_iff.mpr ⟨t, broken⟩⟩
    exact .inl ⟨a, last, .inl failed⟩
  | @done a outcome completion t last sent kept ended =>
    have found : outcome ≠ .decoded .exhausted := by
      intro empty
      subst empty
      cases ended
    have decisive : a.Decisive w := ⟨kept, outcome, answer?_eq_some_iff.mpr ⟨t, sent⟩, found⟩
    exact .inl ⟨a, last, .inr decisive⟩
  | @advanced a t last sent kept =>
    have decisive : a.Decisive w :=
      ⟨kept, .decoded .progress, answer?_eq_some_iff.mpr ⟨t, sent⟩, by simp⟩
    exact .inl ⟨a, last, .inr decisive⟩
  | unanswered last spent => exact .inr spent

end Verdict

section Rule
variable {w : World σ} {ttl : UInt8} {t t' : Tracing σ}

/-- An attempt that neither ends nor advances the ttl, and left the path MTU, found nothing. -/
theorem idle_of_going {outcome : ProbeOutcome} (sent : w.sendProbe ttl t = .ok outcome t')
    (same : t'.session.mtu = t.session.mtu) (going : Completion.ofOutcome? outcome = none)
    (stuck : outcome ≠ .decoded .progress) : Attempt.Idle w ⟨ttl, t⟩ := by
  have kept := lowers_of_eq sent same
  have answered : answer? (Attempt.result w ⟨ttl, t⟩) = some outcome :=
    answer?_eq_some_iff.mpr ⟨t', sent⟩
  have unchanged : outcome ≠ .decoded .mtuChanged := by
    intro changed
    subst changed
    rw [lowers_of_mtuChanged answered] at kept
    cases kept
  have empty : outcome = .decoded .exhausted := by
    cases outcome with
    | replyReceived => cases going
    | sendFailed => cases going
    | decoded outcome => cases outcome <;> simp_all [Completion.ofOutcome?]
  exact ⟨kept, empty ▸ answered⟩

theorem attempts_succ {r : EStateM.Result Failure (Tracing σ) ProbeOutcome}
    (sent : w.sendProbe ttl t = r) (n : Nat) :
    w.attempts ttl (n + 1) t = ⟨ttl, t⟩ :: w.attempts ttl n (finalState r) := by
  rw [World.attempts, sent]

/-- The ttl is not settled by fewer than `n` attempts from `t` on, made after those before. -/
def Inconclusive (w : World σ) (ttl : UInt8) (before : List (Attempt σ)) (n : Nat)
    (t : Tracing σ) : Prop :=
  ∀ m < n, ¬Conclusive w (before ++ w.attempts ttl m t)

theorem inconclusive_one {before : List (Attempt σ)} (now : ¬Conclusive w before) :
    Inconclusive w ttl before 1 t := by
  intro m few
  have zero : m = 0 := by omega
  rw [zero, World.attempts, List.append_nil]
  exact now

/-- One more attempt comes first, and those made before it with it. -/
theorem Inconclusive.succ {before : List (Attempt σ)} {n : Nat} {outcome : ProbeOutcome}
    (sent : w.sendProbe ttl t = .ok outcome t') (now : ¬Conclusive w before)
    (later : ∀ m < n, ¬Conclusive w (before ++ ⟨ttl, t⟩ :: w.attempts ttl m t')) :
    Inconclusive w ttl before (n + 1) t := by
  intro m few
  cases m with
  | zero => exact inconclusive_one now 0 Nat.one_pos
  | succ m =>
    rw [attempts_succ sent, finalState_ok]
    exact later m (by omega)

/-- The attempts still to be made settle the ttl, together with the idle ones made before,
of which there are as many as the loop has counted down. -/
theorem TtlExec.concludes {left : Nat} {as before : List (Attempt σ)}
    {r : EStateM.Result Failure (Tracing σ) (Option Completion)} (h : TtlExec w ttl left t as r)
    (idle : ∀ a ∈ before, a.Idle w) (count : before.length + left = 3)
    (here : ∀ a, before.getLast? = some a → finalState (a.result w) = t) :
    ∃ n, Verdict w ttl (before ++ w.attempts ttl n t) r ∧ Inconclusive w ttl before n t := by
  induction h generalizing before with
  | @unanswered t =>
    obtain ⟨a, last⟩ : ∃ a, before.getLast? = some a := by
      cases found : before.getLast? with
      | some a => exact ⟨a, rfl⟩
      | none =>
        rw [List.getLast?_eq_none_iff.mp found] at count
        cases count
    have spent : Spent w before := ⟨before, List.suffix_rfl, count, idle⟩
    have verdict : Verdict w ttl before _ := .unanswered last spent
    rw [here a last] at verdict
    refine ⟨0, ?_, by intro m none; omega⟩
    rwa [World.attempts, List.append_nil]
  | @failed left t e t' sent =>
    have now := inconclusive_of_idle idle (by omega)
    refine ⟨1, ?_, inconclusive_one now⟩
    exact .failed List.getLast?_concat sent
  | @ended left t outcome t' completion sent same ended =>
    have now := inconclusive_of_idle idle (by omega)
    refine ⟨1, ?_, inconclusive_one now⟩
    exact .done List.getLast?_concat sent (lowers_of_eq sent same) (completes_iff.mpr ended)
  | @advanced left t t' sent same =>
    have now := inconclusive_of_idle idle (by omega)
    refine ⟨1, ?_, inconclusive_one now⟩
    exact .advanced List.getLast?_concat sent (lowers_of_eq sent same)
  | @restarted left t outcome t' as r sent changed _ ih =>
    -- What was made before and this attempt itself do not count for what follows.
    have now := inconclusive_of_idle idle (by omega)
    have lowered := lowers_of_ne sent changed
    have answered : answer? (Attempt.result w ⟨ttl, t⟩) = some outcome :=
      answer?_eq_some_iff.mpr ⟨t', sent⟩
    obtain ⟨n, verdict, inconclusive⟩ := ih (List.forall_mem_nil _) rfl (by simp)
    refine ⟨n + 1, ?_, Inconclusive.succ sent now ?_⟩
    · rw [attempts_succ sent, finalState_ok, List.append_cons]
      exact verdict.append _
    · intro m few
      rw [conclusive_append_iff lowered answered]
      exact inconclusive m few
  | @repeated left t outcome t' as r sent same going stuck _ ih =>
    have now := inconclusive_of_idle idle (by omega)
    have quiet := idle_of_going sent same going stuck
    have longer : ∀ a ∈ before ++ [⟨ttl, t⟩], a.Idle w := by
      intro a m
      rcases List.mem_append.mp m with earlier | this
      · exact idle a earlier
      · rw [List.mem_singleton.mp this]
        exact quiet
    have counted : (before ++ [(⟨ttl, t⟩ : Attempt σ)]).length + left = 3 := by
      rw [List.length_append, List.length_singleton]
      omega
    have arrived : ∀ a, (before ++ [(⟨ttl, t⟩ : Attempt σ)]).getLast? = some a →
        finalState (a.result w) = t' := by
      intro a last
      rw [List.getLast?_concat] at last
      injection last with this
      rw [← this, Attempt.result, sent, finalState_ok]
    obtain ⟨n, verdict, inconclusive⟩ := ih longer counted arrived
    refine ⟨n + 1, ?_, Inconclusive.succ sent now ?_⟩
    · rw [attempts_succ sent, finalState_ok, List.append_cons]
      exact verdict
    · intro m few
      rw [List.append_cons]
      exact inconclusive m few

/-- The budget of a ttl. It gets one attempt after another until they settle it, and ends as
the last of them says. The outcome of a lowered path MTU comes only from an attempt that left
a lower one behind. Such an attempt, unless it failed, does not settle the ttl, and neither
it nor any before it counts towards settling it later. -/
theorem probeTtl_budget (w : World σ) (ttl : UInt8) (t : Tracing σ) :
    (∃ n, Verdict w ttl (w.attempts ttl n t) (w.probeTtl ttl t) ∧
      Conclusive w (w.attempts ttl n t) ∧ ∀ m < n, ¬Conclusive w (w.attempts ttl m t)) ∧
    (∀ a : Attempt σ, answer? (a.result w) = some (.decoded .mtuChanged) →
      a.lowers w = true) ∧
    ∀ (as bs : List (Attempt σ)) (a : Attempt σ) (outcome : ProbeOutcome),
      a.lowers w = true → answer? (a.result w) = some outcome →
      (Conclusive w (as ++ a :: bs) ↔ Conclusive w bs) := by
  refine ⟨?_, fun a => lowers_of_mtuChanged, fun as bs a outcome => conclusive_append_iff⟩
  obtain ⟨as, exec⟩ := w.probeTtlFrom_exec ttl maxTtlAttempts t
  obtain ⟨n, verdict, inconclusive⟩ := exec.concludes (List.forall_mem_nil _) rfl (by simp)
  exact ⟨n, verdict, verdict.conclusive, inconclusive⟩

end Rule

namespace Restarted
open Simulation

def world : World (Transcript ScriptedNetwork) :=
  (scriptedNetwork.attendedBy (Audience.silent _)).transcribed

/-- A datagram that is answered with an error. -/
def answered (origin : Origin) (code : ErrorCode) (icmpType : UInt8) (info : UInt32) :
    ScriptEntry :=
  { ScriptEntry.empty with
    notes :=
      [.notification 0 .sent (.fixed []) (some ⟨origin, code, icmpType, 0, info, none⟩) none] }

def refused : ScriptEntry := { ScriptEntry.empty with refusal := some (.send Errno.wouldBlock) }

def replied : ScriptEntry := { ScriptEntry.empty with reply := .ok (some 16) }

/-- The path MTU is lowered, then two probes bring nothing, and at last comes what is given. -/
def tracing (last : List ScriptEntry) : Tracing (Transcript ScriptedNetwork) :=
  Tracing.unspoken ⟨Session.start SessionConfig.default, ScriptedNetwork.start ⟨1000000000⟩
    ([answered .local .messageTooBig 0 1400, .empty, .empty] ++ last) fun _ => none⟩

/-- Whether an attempt lowered the path MTU, and its outcome. -/
def seen (a : Attempt (Transcript ScriptedNetwork)) : Bool × Option ProbeOutcome :=
  (a.lowers world, answer? (a.result world))

/-- What comes of the ttl, and how often it is given up. -/
def ending (r : EStateM.Result Failure (Tracing (Transcript ScriptedNetwork)) (Option Completion)) :
    Option (Option Completion) × Nat :=
  (answer? r, (finalState r).world.past.count (.event (.noReply 1)))

/-- It takes a fourth attempt, with the given outcome, and the ttl ends as it should. It is
given up only if nothing was found. -/
def Settles (last : List ScriptEntry) (outcome : ProbeOutcome) (found : Option Completion) :
    Prop :=
  (world.attempts 1 4 (tracing last)).map seen = [(true, some (.decoded .mtuChanged)),
    (false, some (.decoded .exhausted)), (false, some (.decoded .exhausted)),
    (false, some outcome)] ∧
  ending (world.probeTtl 1 (tracing last)) =
    (some found, if outcome = .decoded .exhausted then 1 else 0) ∧
  Verdict world 1 (world.attempts 1 4 (tracing last)) (world.probeTtl 1 (tracing last))

section
variable {last : List ScriptEntry} {outcome : ProbeOutcome} {found : Option Completion}

theorem idle_of_seen {a : Attempt (Transcript ScriptedNetwork)}
    (nothing : seen a = (false, some (.decoded .exhausted))) : a.Idle world :=
  ⟨congrArg Prod.fst nothing, congrArg Prod.snd nothing⟩

/-- Whatever it brings, the last of three attempts after the path MTU was lowered is enough. -/
theorem conclusive_of_seen {b c d : Attempt (Transcript ScriptedNetwork)}
    (second : seen b = (false, some (.decoded .exhausted)))
    (third : seen c = (false, some (.decoded .exhausted)))
    (fourth : seen d = (false, some outcome)) :
    Conclusive world [b, c, d] := by
  by_cases nothing : outcome = .decoded .exhausted
  · subst nothing
    refine .inr ⟨[b, c, d], List.suffix_rfl, rfl, ?_⟩
    simp [idle_of_seen second, idle_of_seen third, idle_of_seen fourth]
  · have decisive : d.Decisive world :=
      ⟨congrArg Prod.fst fourth, outcome, congrArg Prod.snd fourth, nothing⟩
    exact .inl ⟨d, rfl, .inr decisive⟩

/-- The first attempt does not count, so that it takes four. -/
theorem settles
    (attempts : (world.attempts 1 4 (tracing last)).map seen =
      [(true, some (.decoded .mtuChanged)), (false, some (.decoded .exhausted)),
        (false, some (.decoded .exhausted)), (false, some outcome)])
    (probed : (world.probeTtlWithin 1 6 maxTtlAttempts (tracing last)).map ending =
      some (some found, if outcome = .decoded .exhausted then 1 else 0))
    (settled : ∃ n, Verdict world 1 (world.attempts 1 n (tracing last))
      (world.probeTtl 1 (tracing last)) ∧ Conclusive world (world.attempts 1 n (tracing last)) ∧
        ∀ m < n, ¬Conclusive world (world.attempts 1 m (tracing last)))
    (wasted : ∀ (as bs : List (Attempt (Transcript ScriptedNetwork)))
      (a : Attempt (Transcript ScriptedNetwork)) (outcome : ProbeOutcome),
      a.lowers world = true → answer? (a.result world) = some outcome →
        (Conclusive world (as ++ a :: bs) ↔ Conclusive world bs)) :
    Settles last outcome found := by
  refine ⟨attempts, World.probeTtl_seen probed, ?_⟩
  obtain ⟨a, b, c, d, one, two, three, four⟩ :
      ∃ a b c d, world.attempts 1 1 (tracing last) = [a] ∧
        world.attempts 1 2 (tracing last) = [a, b] ∧
        world.attempts 1 3 (tracing last) = [a, b, c] ∧
        world.attempts 1 4 (tracing last) = [a, b, c, d] :=
    ⟨_, _, _, _, rfl, rfl, rfl, rfl⟩
  rw [four, List.map_cons, List.cons.injEq] at attempts
  obtain ⟨first, others⟩ := attempts
  obtain ⟨second, third, fourth⟩ : seen b = _ ∧ seen c = _ ∧ seen d = _ := by
    simpa only [List.map_cons, List.map_nil, List.cons.injEq, and_true] using others
  have wasted (bs : List (Attempt (Transcript ScriptedNetwork))) :
      Conclusive world (a :: bs) ↔ Conclusive world bs :=
    wasted [] bs a _ (congrArg Prod.fst first) (congrArg Prod.snd first)
  have going (bs : List (Attempt (Transcript ScriptedNetwork))) (idle : ∀ a ∈ bs, a.Idle world)
      (few : bs.length < 3) : ¬Conclusive world (a :: bs) :=
    mt (wasted bs).mp (inconclusive_of_idle idle few)
  have second' := idle_of_seen second
  have third' := idle_of_seen third
  have early : ∀ m < 4, ¬Conclusive world (world.attempts 1 m (tracing last)) := by
    intro m few
    match m, few with
    | 0, _ => exact inconclusive_of_idle (List.forall_mem_nil _) (Nat.succ_pos 2)
    | 1, _ => exact one ▸ going [] (List.forall_mem_nil _) (Nat.succ_pos 2)
    | 2, _ => exact two ▸ going [b] (by simp [second']) (by simp)
    | 3, _ => exact three ▸ going [b, c] (by simp [second', third']) (by simp)
  have enough : Conclusive world (world.attempts 1 4 (tracing last)) :=
    four ▸ (wasted [b, c, d]).mpr (conclusive_of_seen second third fourth)
  obtain ⟨n, verdict, conclusive, least⟩ := settled
  have same : n = 4 := Nat.le_antisymm (Nat.le_of_not_lt fun many => least 4 many enough)
    (Nat.le_of_not_lt fun few => early n few conclusive)
  exact same ▸ verdict

end

end Restarted

open Restarted in
/-- An attempt that lowers the path MTU, two that find nothing, and a last one that ends the
trace in each of the four ways, answers from a router, or finds nothing either. -/
theorem probeTtl_budget_restarted :
    Settles [answered .icmp .connectionRefused 3 0] (.decoded .reached) (some .reached) ∧
    Settles [answered .icmp .hostUnreachable 3 0] (.decoded .hardError) (some .hardError) ∧
    Settles [replied] .replyReceived (some .replyReceived) ∧
    Settles (List.replicate 10 refused) .sendFailed (some .sendFailed) ∧
    Settles [answered .icmp .hostUnreachable 11 0] (.decoded .progress) none ∧
    Settles [.empty] (.decoded .exhausted) none := by
  have budget (last : List Simulation.ScriptEntry) := probeTtl_budget world 1 (tracing last)
  have settled (last) {outcome found} (attempts) (probed) : Settles last outcome found :=
    settles attempts probed (budget last).1 (budget last).2.2
  refine ⟨settled _ ?_ ?_, settled _ ?_ ?_, settled _ ?_ ?_, settled _ ?_ ?_, settled _ ?_ ?_,
    settled _ ?_ ?_⟩ <;> decide +kernel

end HopTrace
