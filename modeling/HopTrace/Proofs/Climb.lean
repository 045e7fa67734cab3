import HopTrace.Proofs.Calls

/-!
# The climb of a trace

A trace sets the hop limits 1, 2, 3 and so on, each once. All it sends and publishes until
the next one is set carries the hop limit that was set last. If no hop limit is refused and
nothing ends the trace, the climb goes up to the highest ttl, and at each ttl on the way the
network has accepted a datagram: a call of the probe engine that is no reason to stop has
had its probe accepted.
-/
namespace HopTrace

/-- The ttl that an event says was being probed. -/
def Event.ttl? : Event → Option UInt8
  | .hop h => some h.ttl
  | .noInfo => none
  | .replyReceived ttl | .sendFailed ttl | .noReply ttl => some ttl

namespace Exchange

def setsTtl : Exchange → Bool
  | .setTtl _ _ => true
  | _ => false

/-- The ttl that a datagram or an event carries. -/
def ttl? : Exchange → Option Nat
  | .send payload _ _ => some payload.header.ttl.toNat
  | .event e => e.ttl?.map UInt8.toNat
  | _ => none

theorem setsTtl_of_ttl? {x : Exchange} {ttl : Nat} (carries : x.ttl? = some ttl) :
    x.setsTtl = false := by
  cases x with
  | setTtl _ _ => cases carries
  | _ => rfl

end Exchange

/-- The hop limits up to `n` have been set one after the other, and the rest of the
transcript carries the one that was set last. -/
inductive Climb : Nat → List Exchange → Prop
  | base : Climb 0 []
  | higher {n past} (ttl : UInt8) : Climb n past → ttl.toNat = n + 1 →
      Climb (n + 1) (.setTtl ttl (.ok ()) :: past)
  | level {n past} (x : Exchange) : Climb (n + 1) past → x.ttl? = some (n + 1) →
      Climb (n + 1) (x :: past)
  | silent {n past} (x : Exchange) : Climb n past → x.setsTtl = false → x.ttl? = none →
      Climb n (x :: past)

/-- Where a climb ends: on the last hop limit, or with the refusal of the next. -/
inductive Climbed : Nat → List Exchange → Prop
  | stood {n past} : Climb n past → Climbed n past
  | slipped {n past} (ttl : UInt8) (e : Failure) : Climb n past → ttl.toNat = n + 1 →
      Climbed (n + 1) (.setTtl ttl (.error e) :: past)

namespace Climb
variable {n : Nat} {ttl : UInt8} {x : Exchange} {new past before : List Exchange}

theorem event {e : Event} (h : Climb (n + 1) past) (next : ttl.toNat = n + 1)
    (carries : e.ttl? = some ttl) : Climb (n + 1) (.event e :: past) := by
  apply h.level
  change e.ttl?.map UInt8.toNat = some (n + 1)
  rw [carries, Option.map_some, next]

theorem send {payload : Payload} {now : Instant} (h : Climb (n + 1) past)
    (next : ttl.toNat = n + 1) (header : payload.header = .ofSend ttl now) (port : UInt16)
    (answer : Except Failure Unit) :
    Climb (n + 1) (.send payload port answer :: .now now :: past) := by
  apply (h.silent (.now now) rfl rfl).level
  change some payload.header.ttl.toNat = some (n + 1)
  rw [header, ← next]
  exact congrArg some (UInt8.toNat_toUInt32 ttl)

theorem append_resolves (h : Climb n past)
    (asked : ∀ x ∈ new, ∃ a name, x = Exchange.resolve a name) : Climb n (new ++ past) := by
  induction new with
  | nil => exact h
  | cons x new ih =>
    obtain ⟨a, name, rfl⟩ := asked x List.mem_cons_self
    have rest : Climb n (new ++ past) := ih fun y m => asked y (List.mem_cons_of_mem _ m)
    exact rest.silent _ rfl rfl

/-- What carries a ttl carries the one that was set last. -/
theorem carried {k : Nat} (h : Climb n past) (here : x :: before <:+ past)
    (carries : x.ttl? = some k) : 0 < k ∧ Climb k before := by
  induction h with
  | base => exact absurd here not_cons_suffix_nil
  | higher ttl _ _ ih =>
    apply ih
    apply suffix_of_ne _ here
    rintro rfl
    cases carries
  | @level n past y climb level ih =>
    rcases cons_suffix_cases here with ⟨rfl, rfl⟩ | earlier
    · rw [level] at carries
      injection carries with carries
      subst carries
      exact ⟨Nat.succ_pos n, climb⟩
    · exact ih earlier
  | silent y _ _ silent ih =>
    apply ih
    apply suffix_of_ne _ here
    rintro rfl
    rw [silent] at carries
    cases carries

end Climb

theorem Climbed.carried {n k : Nat} {x : Exchange} {past before : List Exchange}
    (h : Climbed n past) (here : x :: before <:+ past) (carries : x.ttl? = some k) :
    0 < k ∧ Climb k before := by
  cases h with
  | stood climb => exact climb.carried here carries
  | slipped ttl e climb _ =>
    refine climb.carried (suffix_of_ne ?_ here) carries
    rintro rfl
    cases carries

/-- No probe ends a trace for want of hops. -/
theorem Completion.ofOutcome?_ne (outcome : ProbeOutcome) :
    Completion.ofOutcome? outcome ≠ some .tooManyHops := by
  rcases outcome with drained | _ | _
  · cases drained <;> simp [Completion.ofOutcome?]
  · simp [Completion.ofOutcome?]
  · simp [Completion.ofOutcome?]

theorem TtlExec.ne_tooManyHops {σ : Type} {w : World σ} {ttl : UInt8} {left : Nat}
    {t t' : Tracing σ} {as : List (Attempt σ)}
    {r : EStateM.Result Failure (Tracing σ) (Option Completion)} {completion : Completion}
    (h : TtlExec w ttl left t as r) (ended : r = .ok (some completion) t') :
    completion ≠ .tooManyHops := by
  induction h with
  | unanswered => cases ended
  | failed _ => cases ended
  | advanced _ _ => cases ended
  | restarted _ _ _ ih => exact ih ended
  | repeated _ _ _ _ _ ih => exact ih ended
  | @ended _ _ outcome _ _ _ _ found =>
    injection ended with same _
    injection same with same
    rintro rfl
    rw [same] at found
    exact Completion.ofOutcome?_ne outcome found

section Maintains
variable {σ : Type} {w : World σ} {ttl : UInt8}

/-- A call of the probe engine stays on the level of its ttl. -/
theorem maintains_climb (w : World σ) {n : Nat} (next : ttl.toNat = n + 1) :
    w.Maintains ttl (fun _ => Climb (n + 1)) (fun _ _ => Climb (n + 1)) where
  unread _ h _ := h.silent _ rfl rfl
  emptied h := h.silent _ rfl rfl
  undecoded _ _ h _ := h.silent _ rfl rfl
  uninformed _ h _ := (h.silent _ rfl rfl).silent _ rfl rfl
  decoded n hop responder names h decoded asked := by
    obtain ⟨p, e, -, -, rfl, -⟩ := Session.decode_hop decoded
    have read := h.silent (.receiveNotification (.ok (some n))) rfl rfl
    exact (read.append_resolves asked).event next rfl
  sent _ _ _ h _ := h.send next rfl _ _
  unsent _ _ _ h _ _ := h.send next rfl _ _
  awaited _ h := h.silent _ rfl rfl
  unawaited _ h _ := h.silent _ rfl rfl
  answered _ h := h.silent _ rfl rfl
  unanswered _ h _ := h.silent _ rfl rfl
  published e engine h := by
    have carries : e.ttl? = some ttl := by
      simp only [List.mem_cons, List.not_mem_nil, or_false] at engine
      rcases engine with rfl | rfl | rfl <;> rfl
    exact h.event next carries
  cleared _ h := h
  advanced h := h

variable {n : Nat} {t t' : Tracing (Transcript σ)}

theorem climb_sendProbe (next : ttl.toNat = n + 1) (climb : Climb (n + 1) t.world.past)
    {r : EStateM.Result Failure (Tracing (Transcript σ)) ProbeOutcome}
    (sent : w.transcribed.sendProbe ttl t = r) : Climb (n + 1) (finalState r).world.past := by
  have landed := (maintains_climb w next).lands_sendProbe climb
  rw [sent] at landed
  exact landed.finalState (J := fun _ => Climb (n + 1))

theorem TtlExec.climb {left : Nat} {as : List (Attempt (Transcript σ))}
    {r : EStateM.Result Failure (Tracing (Transcript σ)) (Option Completion)}
    (h : TtlExec w.transcribed ttl left t as r) (next : ttl.toNat = n + 1)
    (climb : Climb (n + 1) t.world.past) : Climb (n + 1) (finalState r).world.past := by
  induction h with
  | unanswered => exact climb.event next rfl
  | failed sent => exact climb_sendProbe next climb sent
  | restarted sent _ _ ih => exact ih (climb_sendProbe next climb sent)
  | ended sent _ _ => exact climb_sendProbe next climb sent
  | advanced sent _ => exact climb_sendProbe next climb sent
  | repeated sent _ _ _ _ ih => exact ih (climb_sendProbe next climb sent)

/-- The ttls go up from `n` by one each. -/
def Rising : Nat → List UInt8 → Prop
  | _, [] => True
  | n, ttl :: rest => ttl.toNat = n + 1 ∧ Rising (n + 1) rest

/-- The hop limit is set and the ttl probed. -/
theorem TtlExec.climb_set {t₁ : Tracing (Transcript σ)} (climb : Climb n t.world.past)
    (next : ttl.toNat = n + 1) (set : Step.world (w.transcribed.setTtl ttl) t = .ok () t₁)
    {as : List (Attempt (Transcript σ))}
    {r : EStateM.Result Failure (Tracing (Transcript σ)) (Option Completion)}
    (probed : TtlExec w.transcribed ttl maxTtlAttempts t₁ as r) :
    Climb (n + 1) (finalState r).world.past := by
  have told : t₁.world.past = .setTtl ttl (.ok ()) :: t.world.past := past_perform_ok set
  have up : Climb (n + 1) t₁.world.past := by
    rw [told]
    exact climb.higher ttl next
  exact probed.climb next up

section Path
variable {ttls : List UInt8} {walk : List (List (Attempt (Transcript σ)))}
variable {r : EStateM.Result Failure (Tracing (Transcript σ)) Completion}

/-- A trace climbs no higher than its ttls. -/
theorem PathExec.climbed (h : PathExec w.transcribed ttls t walk r)
    (climb : Climb n t.world.past) (rising : Rising n ttls) :
    ∃ m, m ≤ n + ttls.length ∧ Climbed m (finalState r).world.past := by
  induction h generalizing n with
  | spent => exact ⟨n, Nat.le_refl n, .stood climb⟩
  | @unset ttl rest t e t' set =>
    have told : t'.world.past = .setTtl ttl (.error e) :: t.world.past := past_perform_error set
    refine ⟨n + 1, ?_, ?_⟩
    · rw [List.length_cons]
      omega
    · rw [finalState_error, told]
      exact .slipped ttl e climb rising.1
  | failed set probed =>
    refine ⟨n + 1, ?_, .stood (probed.climb_set climb rising.1 set)⟩
    rw [List.length_cons]
    omega
  | ended set probed =>
    refine ⟨n + 1, ?_, .stood (probed.climb_set climb rising.1 set)⟩
    rw [List.length_cons]
    omega
  | advanced set probed _ ih =>
    obtain ⟨m, low, climbed⟩ := ih (probed.climb_set climb rising.1 set) rising.2
    refine ⟨m, ?_, climbed⟩
    rw [List.length_cons]
    omega

/-- If it is not stopped it climbs them all. -/
theorem PathExec.topped (h : PathExec w.transcribed ttls t walk r)
    (climb : Climb n t.world.past) (rising : Rising n ttls)
    (ended : answer? r = some .tooManyHops) :
    Climb (n + ttls.length) (finalState r).world.past := by
  induction h generalizing n with
  | spent => exact climb
  | unset _ => cases ended
  | failed _ _ => cases ended
  | ended _ probed =>
    injection ended with ended
    exact absurd ended (probed.ne_tooManyHops rfl)
  | @advanced _ rest _ _ _ _ _ r set probed _ ih =>
    have up := probed.climb_set climb rising.1 set
    have top : Climb (n + 1 + rest.length) (finalState r).world.past := ih up rising.2 ended
    rw [List.length_cons, Nat.add_comm rest.length, ← Nat.add_assoc]
    exact top

end Path

end Maintains

/-- A datagram that carries the ttl has been accepted. -/
def Accepted (ttl : Nat) (past : List Exchange) : Prop :=
  ∃ payload port before, .send payload port (.ok ()) :: before <:+ past ∧
    payload.header.ttl.toNat = ttl

theorem Accepted.mono {ttl : Nat} {past past' : List Exchange} (h : Accepted ttl past)
    (grown : past <:+ past') : Accepted ttl past' := by
  obtain ⟨payload, port, before, here, carried⟩ := h
  exact ⟨payload, port, before, here.trans grown, carried⟩

theorem steady_accepted (ttl : Nat) : Steady fun _ past => Accepted ttl past :=
  fun new h _ _ => h.mono (List.suffix_append new _)

section Accepted
variable {σ : Type} {w : World σ} {ttl : UInt8} {t t' : Tracing (Transcript σ)}

theorem accepted_shoot {slot : Slot} (shot : w.transcribed.shoot ttl slot t = .ok true t') :
    Accepted ttl.toNat t'.world.past := by
  rw [World.shoot_eq, World.transcribed_trySend] at shot
  split at shot
  · injection shot with _ state
    rw [← state]
    exact ⟨_, _, _, List.suffix_rfl, UInt8.toNat_toUInt32 ttl⟩
  · injection shot with refused _
    cases refused
  · cases shot

theorem LaunchExec.accepted {slot : Slot} {n : Nat}
    {r : EStateM.Result Failure (Tracing (Transcript σ)) Launch}
    (h : LaunchExec w.transcribed ttl slot n t r) (sent : r = .ok .sent t') :
    Accepted ttl.toNat t'.world.past := by
  induction h with
  | refused => cases sent
  | failed _ => cases sent
  | undrained _ _ => cases sent
  | ended _ _ _ => cases sent
  | retried _ _ _ _ ih => exact ih sent
  | sent shot =>
    injection sent with _ state
    exact accepted_shoot (state ▸ shot)

/-- A call that is no reason to stop has had its probe accepted. -/
theorem accepted_sendProbe {outcome : ProbeOutcome}
    (sent : w.transcribed.sendProbe ttl t = .ok outcome t')
    (going : Completion.ofOutcome? outcome = none) : Accepted ttl.toNat t'.world.past := by
  have exec := w.transcribed.sendProbe_exec ttl t
  rw [sent] at exec
  have launch := w.transcribed.launch_exec ttl t.session.history.cursor maxSendAttempts t
  cases exec with
  | @sent u _ launched collected =>
    have delivered : Accepted ttl.toNat u.world.past := launch.accepted launched
    have collect : w.MaintainsCollect ttl (fun _ => Accepted ttl.toNat) fun _ _ _ => True :=
      maintainsCollect_of_steady (steady_accepted _) fun _ _ => trivial
    exact collect.lands_collect collected delivered
  | @ended drained _ launched =>
    have terminal := launch.terminal launched
    cases drained <;> simp_all [Completion.ofOutcome?, DrainOutcome.isTerminal]
  | refused launched => cases going

theorem TtlExec.accepted {left : Nat} {as : List (Attempt (Transcript σ))}
    {r : EStateM.Result Failure (Tracing (Transcript σ)) (Option Completion)}
    (h : TtlExec w.transcribed ttl left t as r) (passed : r = .ok none t')
    (begun : 0 < left ∨ Accepted ttl.toNat t.world.past) : Accepted ttl.toNat t'.world.past := by
  induction h with
  | unanswered =>
    injection passed with _ state
    rw [← state]
    rcases begun with some | accepted
    · exact absurd some (Nat.lt_irrefl 0)
    · exact accepted.mono (List.suffix_cons _ _)
  | failed _ => cases passed
  | ended _ _ _ => cases passed
  | restarted _ _ _ ih => exact ih passed (.inl (by decide))
  | advanced sent _ =>
    injection passed with _ state
    exact state ▸ accepted_sendProbe sent rfl
  | repeated sent _ going _ _ ih => exact ih passed (.inr (accepted_sendProbe sent going))

/-- A trace that is not stopped has had a datagram accepted at each ttl. -/
theorem PathExec.accepted {ttls : List UInt8} {walk : List (List (Attempt (Transcript σ)))}
    {r : EStateM.Result Failure (Tracing (Transcript σ)) Completion}
    (h : PathExec w.transcribed ttls t walk r) (passed : r = .ok .tooManyHops t') :
    ∀ ttl ∈ ttls, Accepted ttl.toNat t'.world.past := by
  induction h with
  | spent => simp
  | unset _ => cases passed
  | failed _ _ => cases passed
  | ended set probed =>
    injection passed with stopped _
    exact absurd stopped (probed.ne_tooManyHops rfl)
  | @advanced _ _ _ _ _ u _ _ set probed further ih =>
    subst passed
    intro ttl m
    rcases List.mem_cons.mp m with rfl | later
    · have here : Accepted ttl.toNat u.world.past := probed.accepted rfl (.inl (by decide))
      exact here.mono (further.calls.suffix w.transcribed_logs)
    · exact ih rfl ttl later

end Accepted

theorem rising_range' {n k : Nat} (small : n + k ≤ 255) :
    Rising n ((List.range' n k).map fun i => UInt8.ofNat (i + 1)) := by
  induction k generalizing n with
  | zero => exact trivial
  | succ k ih =>
    rw [List.range'_succ, List.map_cons]
    constructor
    · rw [UInt8.toNat_ofNat', Nat.mod_eq_of_lt (by omega)]
    · exact ih (by omega)

theorem Session.rising_ttls (s : Session) : Rising 0 s.ttls := by
  have small := s.maxTtl.toNat_lt
  unfold Session.ttls
  rw [List.range_eq_range']
  exact rising_range' (by omega)

theorem Session.mem_ttls {s : Session} {n : Nat} (positive : 1 ≤ n) (low : n ≤ s.maxTtl.toNat) :
    ∃ ttl ∈ s.ttls, ttl.toNat = n := by
  have small := s.maxTtl.toNat_lt
  refine ⟨UInt8.ofNat (n - 1 + 1), ?_, ?_⟩
  · exact List.mem_map.mpr ⟨n - 1, List.mem_range.mpr (by omega), rfl⟩
  · rw [UInt8.toNat_ofNat', Nat.mod_eq_of_lt (by omega)]
    omega

section Trace
variable {σ : Type} {w : World σ} {t : Tracing (Transcript σ)}
variable {walk : List (List (Attempt (Transcript σ)))}
variable {r : EStateM.Result Failure (Tracing (Transcript σ)) Summary}

theorem TraceExec.climbed (h : TraceExec w.transcribed t walk r) (start : t.world.past = []) :
    ∃ m, m ≤ t.session.maxTtl.toNat ∧ Climbed m (finalState r).world.past := by
  have foot : Climb 0 t.world.past := start ▸ .base
  rw [← t.session.length_ttls]
  cases h with
  | failed path =>
    obtain ⟨m, low, climbed⟩ := path.climbed foot t.session.rising_ttls
    exact ⟨m, by omega, climbed⟩
  | finished path =>
    obtain ⟨m, low, climbed⟩ := path.climbed foot t.session.rising_ttls
    exact ⟨m, by omega, climbed⟩

/-- A trace that runs out of hops has climbed to the highest ttl and has had a datagram
accepted at each. -/
theorem TraceExec.topped (h : TraceExec w.transcribed t walk r) (start : t.world.past = [])
    {summary : Summary} {t' : Tracing (Transcript σ)} (ended : r = .ok summary t')
    (spent : summary.completion = .tooManyHops) :
    Climb t.session.maxTtl.toNat t'.world.past ∧
      ∀ n, 1 ≤ n → n ≤ t.session.maxTtl.toNat → Accepted n t'.world.past := by
  have foot : Climb 0 t.world.past := start ▸ .base
  cases h with
  | failed _ => cases ended
  | @finished completion u path =>
    injection ended with same state
    subst same state
    have spent : completion = .tooManyHops := spent
    subst spent
    have up := path.topped foot t.session.rising_ttls rfl
    rw [t.session.length_ttls, Nat.zero_add] at up
    constructor
    · exact up
    · intro n positive low
      obtain ⟨ttl, m, rfl⟩ := Session.mem_ttls positive low
      exact path.accepted rfl ttl m

end Trace

end HopTrace
