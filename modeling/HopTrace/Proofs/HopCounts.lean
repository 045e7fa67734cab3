import HopTrace.Proofs.Decoding
import HopTrace.Proofs.Evaluation
import HopTrace.Proofs.Invariant
import HopTrace.Simulation.Network

/-!
# Whose hop counts a trace reports

The target refuses a probe that reaches it, and the refusal carries the hop counts. The
session keeps the counts of the first refusal that is decoded, wherever that happens. A
refusal ends the trace unless the same attempt lowered the path MTU; then the ttl is
probed anew and the counts stay behind.

So the counts that are reported are those of the refusal that ended the trace, or absent
without one, exactly when no attempt was overridden in this way or the first refusal and
the last say the same.
-/
namespace HopTrace

/-- The hops to the target and back, as one refusal tells them. -/
@[ext]
structure HopCounts where
  there : UInt8
  back : Option UInt8
  deriving DecidableEq, Repr

/-- The session has exactly these hop counts. -/
def Session.Keeps (s : Session) (counts : Option HopCounts) : Prop :=
  s.hopsTo = counts.map (·.there) ∧ s.hopsFrom = counts.bind (·.back)

/-- The target answered that it has no use for the probe. -/
def Notification.isRefusal (n : Notification) : Bool :=
  n.error.any (·.code = .connectionRefused)

/-- The notification that was read last. -/
def lastRead : List Exchange → Option Notification
  | [] => none
  | .receiveNotification (.ok (some n)) :: _ => some n
  | _ :: past => lastRead past

/-- The hop counts of a published hop, if it was decoded from a refusal. -/
def refusal? (hop : Hop) (past : List Exchange) : Option HopCounts :=
  ((lastRead past).filter Notification.isRefusal).map fun n =>
    ⟨hop.number, n.receivedTtl.map returnHops⟩

/-- The hop counts of all refusals that were decoded, the latest first. -/
def refusals : List Exchange → List HopCounts
  | [] => []
  | .event (.hop hop) :: past => (refusal? hop past).toList ++ refusals past
  | _ :: past => refusals past

section Refusals
variable {names past : List Exchange}

theorem lastRead_append_resolves (asked : ∀ x ∈ names, ∃ a name, x = Exchange.resolve a name) :
    lastRead (names ++ past) = lastRead past :=
  append_resolves asked fun _ _ _ => rfl

theorem refusals_append_resolves (asked : ∀ x ∈ names, ∃ a name, x = Exchange.resolve a name) :
    refusals (names ++ past) = refusals past :=
  append_resolves asked fun _ _ _ => rfl

theorem refusal?_decoded (hop : Hop) (n : Notification)
    (asked : ∀ x ∈ names, ∃ a name, x = Exchange.resolve a name) :
    refusal? hop (names ++ .receiveNotification (.ok (some n)) :: past) =
      if n.isRefusal then some ⟨hop.number, n.receivedTtl.map returnHops⟩ else none := by
  have read : lastRead (.receiveNotification (.ok (some n)) :: past) = some n := rfl
  rw [refusal?, lastRead_append_resolves asked, read]
  cases refusal : n.isRefusal with
  | true => simp [Option.filter, refusal]
  | false => simp [Option.filter, refusal]

/-- What a decoded notification adds to the refusals. -/
theorem refusals_decoded (hop : Hop) (n : Notification)
    (asked : ∀ x ∈ names, ∃ a name, x = Exchange.resolve a name) :
    refusals (.event (.hop hop) :: (names ++ .receiveNotification (.ok (some n)) :: past)) =
      if n.isRefusal then ⟨hop.number, n.receivedTtl.map returnHops⟩ :: refusals past
      else refusals past := by
  have same : refusals (.receiveNotification (.ok (some n)) :: past) = refusals past := rfl
  rw [refusals, refusal?_decoded hop n asked, refusals_append_resolves asked, same]
  cases n.isRefusal <;> rfl

end Refusals

section Decoded
variable {s s' : Session} {ttl : UInt8} {n : Notification} {hop : Hop}

theorem status_decode (h : s.decode ttl n = .ok (some hop) s') :
    hop.status = .reached ↔ n.isRefusal = true := by
  obtain ⟨p, e, -, error, rfl, -⟩ := s.decode_hop h
  rw [Notification.isRefusal, error, Option.any_some, decide_eq_true_eq]
  exact classify_eq_reached_iff e _ _ ttl

/-- Every record is of a probe with a hop limit that can be sent. -/
def Session.Positive (s : Session) : Prop :=
  ∀ slot r, s.history.get? slot = some r → 0 < r.ttl

theorem Session.Positive.of_history (h : s.Positive) (same : s'.history = s.history) :
    s'.Positive := by
  unfold Session.Positive
  rw [same]
  exact h

theorem Session.Positive.taken (h : s.Positive) (n : Notification) : (s.taken n).Positive :=
  fun slot r found => h slot r (s.get?_taken found)

theorem Session.Positive.decode (h : s.Positive) (decoded : s.decode ttl n = .ok (some hop) s') :
    s'.Positive := by
  obtain ⟨p, e, -, -, -, rfl⟩ := s.decode_hop decoded
  exact (h.taken n).of_history (Session.history_learn ..)

theorem Session.Positive.record (h : s.Positive) (positive : 0 < ttl) (slot : Slot)
    (now : Instant) : (s.record slot ttl now).Positive := by
  intro slot' r found
  change (s.history.record slot ttl now).get? slot' = some r at found
  rw [History.get?_record] at found
  split at found
  · injection found with found
    exact found ▸ positive
  · exact h slot' r found

theorem Session.Positive.clear (h : s.Positive) (slot : Slot) : (s.clear slot).Positive := by
  intro slot' r found
  change (s.history.clear slot).get? slot' = some r at found
  rw [History.get?_clear] at found
  split at found
  · cases found
  · exact h slot' r found

theorem number_hop {p : MatchedProbe} (positive : ∀ t, p.ttl = some t → 0 < t)
    (e : ExtendedError) : (p.hop ttl n e).number = p.ttl.getD ttl := by
  unfold Hop.number MatchedProbe.hop
  cases found : p.ttl with
  | none => rfl
  | some t => simp [Option.filter, positive t found]

theorem Session.Keeps.taken {counts : Option HopCounts} (h : s.Keeps counts) (n : Notification) :
    (s.taken n).Keeps counts := by
  rw [s.taken_eq n]
  exact h

theorem Session.Keeps.learn {counts : Option HopCounts} (h : s.Keeps counts) (status : HopStatus)
    (hops : UInt8) (back : Option UInt8) :
    (s.learn status hops back).Keeps
      (if status = .reached then some (counts.getD ⟨hops, back⟩) else counts) := by
  cases status with
  | pathMtu mtu =>
    simp only [Session.learn, Session.clampMtu, reduceCtorEq, if_false]
    split <;> exact h
  | reached =>
    obtain ⟨there, back'⟩ := h
    simp only [Session.learn, Session.setHops, if_true]
    cases counts with
    | none =>
      rw [there]
      exact ⟨rfl, rfl⟩
    | some counts =>
      rw [there]
      exact ⟨there, back'⟩
  | _ => exact h

/-- A refusal that is decoded leaves its counts only if there are none yet. -/
theorem Session.Keeps.decode {counts : Option HopCounts} (h : s.Keeps counts)
    (positive : s.Positive) (decoded : s.decode ttl n = .ok (some hop) s') :
    s'.Keeps (if n.isRefusal then
      some (counts.getD ⟨hop.number, n.receivedTtl.map returnHops⟩) else counts) := by
  have refusal := status_decode decoded
  obtain ⟨p, e, found, -, rfl, rfl⟩ := s.decode_hop decoded
  have known : ∀ t, p.ttl = some t → 0 < t := by
    refine MatchedProbe.identify_pos ?_ found
    intro r taken
    obtain ⟨slot, kept⟩ := Session.takeRecord_eq_some taken
    exact positive slot r kept
  rw [number_hop known]
  simp only [← refusal]
  exact (h.taken n).learn _ _ _

end Decoded

/-- What holds all along a trace. -/
structure FirstCounts (s : Session) (past : List Exchange) : Prop where
  positive : s.Positive
  first : s.Keeps (refusals past).getLast?

namespace FirstCounts
variable {s s' : Session} {ttl : UInt8} {past past' : List Exchange}

theorem start (c : SessionConfig) : FirstCounts (Session.start c) [] where
  positive slot r found := by simp [Session.start] at found
  first := ⟨rfl, rfl⟩

/-- An exchange that decodes no refusal. -/
theorem exchanged (h : FirstCounts s past) (same : refusals past' = refusals past) :
    FirstCounts s past' where
  positive := h.positive
  first := same ▸ h.first

theorem decode {names : List Exchange} {n : Notification} {hop : Hop} (h : FirstCounts s past)
    (decoded : s.decode ttl n = .ok (some hop) s')
    (asked : ∀ x ∈ names, ∃ a name, x = Exchange.resolve a name) (responder : Responder) :
    FirstCounts s' (.event (.hop { hop with responder }) ::
      (names ++ .receiveNotification (.ok (some n)) :: past)) where
  positive := h.positive.decode decoded
  first := by
    have kept := h.first.decode h.positive decoded
    rw [refusals_decoded _ n asked]
    cases refusal : n.isRefusal with
    | true =>
      simp only [refusal, if_true] at kept ⊢
      rw [List.getLast?_cons]
      exact kept
    | false =>
      simp only [refusal, Bool.false_eq_true, if_false] at kept ⊢
      exact kept

theorem record (h : FirstCounts s past) (positive : 0 < ttl) (slot : Slot) (now : Instant)
    (same : refusals past' = refusals past) : FirstCounts (s.record slot ttl now) past' where
  positive := h.positive.record positive slot now
  first := same ▸ h.first

theorem clear (h : FirstCounts s past) (slot : Slot) : FirstCounts (s.clear slot) past where
  positive := h.positive.clear slot
  first := h.first

end FirstCounts

theorem maintains_firstCounts {σ : Type} (w : World σ) {ttl : UInt8} (positive : 0 < ttl) :
    w.Maintains ttl FirstCounts (fun _ _ _ => True) where
  unread _ _ _ := trivial
  emptied h := h.exchanged rfl
  undecoded _ _ _ _ := trivial
  uninformed n h decoded := by
    obtain ⟨-, -, rfl⟩ := Session.decode_uninformed decoded
    exact ⟨h.positive.taken n, h.first.taken n⟩
  decoded n hop responder names h decoded asked := h.decode decoded asked responder
  sent slot now answer h _ := h.record positive slot now rfl
  unsent _ _ _ _ _ _ := trivial
  awaited _ h := h.exchanged rfl
  unawaited _ _ _ := trivial
  answered _ h := h.exchanged rfl
  unanswered _ _ _ := trivial
  published e engine h := by
    simp only [List.mem_cons, List.not_mem_nil, or_false] at engine
    obtain rfl | rfl | rfl := engine <;> exact h.exchanged rfl
  cleared slot h := h.clear slot
  advanced h := ⟨h.positive, h.first⟩

theorem lands_firstCounts {σ : Type} (w : World σ) (c : SessionConfig) (s : σ) :
    Lands FirstCounts (fun _ _ _ => True)
      (w.transcribed.trace (Tracing.unspoken ⟨Session.start c, s⟩)) := by
  refine World.Maintains.lands_trace ?_ ?_ (FirstCounts.start c)
  · intro ttl m
    exact maintains_firstCounts w (Session.pos_of_mem_ttls m)
  · intro ttl _
    exact ⟨fun h => h.exchanged rfl, fun _ _ _ => trivial⟩

/-- The transcript ends with the hop that was decoded from a refusal. -/
def EndsWith (counts : HopCounts) (past : List Exchange) : Prop :=
  ∃ hop before, past = .event (.hop hop) :: before ∧ refusal? hop before = some counts

theorem EndsWith.head? {counts : HopCounts} {past : List Exchange} (h : EndsWith counts past) :
    (refusals past).head? = some counts := by
  obtain ⟨hop, before, rfl, refusal⟩ := h
  rw [refusals, refusal]
  rfl

/-- Since `past` a refusal was decoded if `met`, just one and at the very end. -/
structure Meets (past past' : List Exchange) (met : Prop) : Prop where
  no : ¬met → refusals past' = refusals past
  yes : met → ∃ counts, EndsWith counts past' ∧ refusals past' = counts :: refusals past

namespace Meets
variable {past past₁ past₂ : List Exchange} {met : Prop}

theorem of_not (same : refusals past₁ = refusals past) (no : ¬met) : Meets past past₁ met :=
  ⟨fun _ => same, fun yes => absurd yes no⟩

theorem after (h : Meets past₁ past₂ met) (same : refusals past₁ = refusals past) :
    Meets past past₂ met where
  no no := (h.no no).trans same
  yes yes := same ▸ h.yes yes

theorem iff {met' : Prop} (h : Meets past past₁ met) (same : met ↔ met') :
    Meets past past₁ met' :=
  ⟨fun no => h.no ((not_congr same).mpr no), fun yes => h.yes (same.mpr yes)⟩

theorem decoded {names : List Exchange} (hop : Hop) (n : Notification)
    (asked : ∀ x ∈ names, ∃ a name, x = Exchange.resolve a name) :
    Meets past (.event (.hop hop) :: (names ++ .receiveNotification (.ok (some n)) :: past))
      (n.isRefusal = true) where
  no no := by rw [refusals_decoded hop n asked, if_neg no]
  yes yes := by
    refine ⟨⟨hop.number, n.receivedTtl.map returnHops⟩, ⟨hop, _, rfl, ?_⟩, ?_⟩
    · rw [refusal?_decoded hop n asked, if_pos yes]
    · rw [refusals_decoded hop n asked, if_pos yes]

end Meets

section Meetings
variable {σ : Type} {w : World σ} {ttl : UInt8} {t : Tracing (Transcript σ)}

theorem meets_readOne {r : EStateM.Result Failure (Tracing (Transcript σ)) (Option (Option Hop))}
    (read : w.transcribed.readOne ttl t = r) :
    Meets t.world.past (finalState r).world.past
      ((answer? r).join.join.map Hop.status = some .reached) := by
  subst read
  rw [World.transcribed_readOne]
  cases w.receiveNotification t.world.inner with
  | error e s => exact .of_not rfl (by simp [answer?])
  | ok found s =>
    cases found with
    | none => exact .of_not rfl (by simp [answer?])
    | some n =>
      dsimp only
      cases decoded : t.session.decode ttl n with
      | error e s => exact .of_not rfl (by simp [answer?])
      | ok found s' =>
        cases found with
        | none => exact .of_not rfl (by simp [answer?])
        | some hop =>
          obtain ⟨names, asked, named⟩ := w.transcribed_name s'.mode hop.responder
            ⟨.receiveNotification (.ok (some n)) :: t.world.past, s⟩
          simp only [named, answer?, Option.join_some, Option.map_some, Option.some.injEq]
          rw [status_decode decoded]
          exact .decoded _ n asked

theorem DrainOutcome.atEnd_ne_reached (initial mtu : UInt32) (progress : Bool) :
    DrainOutcome.atEnd initial mtu progress ≠ .reached := by
  unfold DrainOutcome.atEnd
  split
  · simp
  · split <;> simp

theorem DrainOutcome.ofStatus?_eq_reached_iff (status : HopStatus) :
    DrainOutcome.ofStatus? status = some .reached ↔ status = .reached := by
  cases status <;> simp [DrainOutcome.ofStatus?]

theorem DrainExec.meets {initial : UInt32} {progress : Bool}
    {r : EStateM.Result Failure (Tracing (Transcript σ)) DrainOutcome}
    (h : DrainExec w.transcribed ttl initial progress t r) :
    Meets t.world.past (finalState r).world.past (answer? r = some .reached) := by
  induction h with
  | failed read => exact (meets_readOne read).iff (by simp [answer?])
  | emptied read =>
    exact (meets_readOne read).iff (by simp [answer?, DrainOutcome.atEnd_ne_reached])
  | uninformed read => exact (meets_readOne read).iff (by simp [answer?])
  | stopped read stop =>
    refine (meets_readOne read).iff ?_
    simp only [answer?, Option.join_some, Option.map_some, Option.some.injEq]
    rw [← DrainOutcome.ofStatus?_eq_reached_iff, stop, Option.some.injEq]
  | decoded read go _ ih =>
    refine ih.after ((meets_readOne read).no ?_)
    simp only [answer?, Option.join_some, Option.map_some, Option.some.injEq]
    rw [← DrainOutcome.ofStatus?_eq_reached_iff, go]
    simp

theorem meets_drain {r : EStateM.Result Failure (Tracing (Transcript σ)) DrainOutcome}
    (drained : w.transcribed.drain ttl t = r) :
    Meets t.world.past (finalState r).world.past (answer? r = some .reached) :=
  (drained ▸ w.transcribed.drain_exec ttl t).meets

theorem refusals_shoot {slot : Slot} {r : EStateM.Result Failure (Tracing (Transcript σ)) Bool}
    (shot : w.transcribed.shoot ttl slot t = r) :
    refusals (finalState r).world.past = refusals t.world.past := by
  obtain ⟨now, payload, port, answer, past⟩ := past_shoot shot
  rw [past]
  rfl

theorem refusals_perform {α : Type} {mark : Except Failure α → Exchange}
    {act : EStateM Failure σ α} {r : EStateM.Result Failure (Tracing (Transcript σ)) α}
    (other : ∀ answer past, refusals (mark answer :: past) = refusals past)
    (performed : Step.world (Transcript.perform mark act) t = r) :
    refusals (finalState r).world.past = refusals t.world.past := by
  obtain ⟨answer, past⟩ := past_perform performed
  rw [past]
  exact other answer _

theorem LaunchExec.meets {slot : Slot} {n : Nat}
    {r : EStateM.Result Failure (Tracing (Transcript σ)) Launch}
    (h : LaunchExec w.transcribed ttl slot n t r) :
    Meets t.world.past (finalState r).world.past (answer? r = some (.ended .reached)) := by
  induction h with
  | refused => exact .of_not rfl (by simp [answer?])
  | failed shot => exact .of_not (refusals_shoot shot) (by simp [answer?])
  | sent shot => exact .of_not (refusals_shoot shot) (by simp [answer?])
  | undrained shot drained =>
    exact ((meets_drain drained).after (refusals_shoot shot)).iff (by simp [answer?])
  | ended shot drained _ =>
    exact ((meets_drain drained).after (refusals_shoot shot)).iff (by simp [answer?])
  | retried shot drained going _ ih =>
    have none := ((meets_drain drained).after (refusals_shoot shot)).no (by
      intro reached
      injection reached with reached
      subst reached
      cases going)
    exact ih.after none

theorem CollectExec.meets {r : EStateM.Result Failure (Tracing (Transcript σ)) ProbeOutcome}
    (h : CollectExec w.transcribed ttl t r) :
    Meets t.world.past (finalState r).world.past (answer? r = some (.decoded .reached)) := by
  cases h with
  | unawaited awaited =>
    have ha := refusals_perform (fun _ _ => rfl) awaited
    exact .of_not ha (by simp [answer?])
  | unanswered awaited answered =>
    have ha := refusals_perform (fun _ _ => rfl) awaited
    have hr := refusals_perform (fun _ _ => rfl) answered
    exact .of_not (hr.trans ha) (by simp [answer?])
  | replied awaited answered =>
    have ha := refusals_perform (fun _ _ => rfl) awaited
    have hr := refusals_perform (fun _ _ => rfl) answered
    exact .of_not (hr.trans ha) (by simp [answer?])
  | undrained awaited answered drained =>
    have ha := refusals_perform (fun _ _ => rfl) awaited
    have hr := refusals_perform (fun _ _ => rfl) answered
    exact ((meets_drain drained).after (hr.trans ha)).iff (by simp [answer?])
  | drained awaited answered drained =>
    have ha := refusals_perform (fun _ _ => rfl) awaited
    have hr := refusals_perform (fun _ _ => rfl) answered
    exact ((meets_drain drained).after (hr.trans ha)).iff (by simp [answer?])

theorem meets_sendProbe {r : EStateM.Result Failure (Tracing (Transcript σ)) ProbeOutcome}
    (sent : w.transcribed.sendProbe ttl t = r) :
    Meets t.world.past (finalState r).world.past (answer? r = some (.decoded .reached)) := by
  have h := sent ▸ w.transcribed.sendProbe_exec ttl t
  have launch := (w.transcribed.launch_exec ttl t.session.history.cursor maxSendAttempts t).meets
  cases h with
  | failed launched =>
    rw [launched] at launch
    exact launch.iff (by simp [answer?])
  | ended launched =>
    rw [launched] at launch
    exact launch.iff (by simp [answer?])
  | refused launched =>
    rw [launched] at launch
    exact .of_not (launch.no (by simp [answer?])) (by simp [answer?])
  | sent launched collected =>
    rw [launched] at launch
    exact collected.meets.after (launch.no (by simp [answer?]))

end Meetings

section Overridden
variable {σ : Type} {w : World σ} {ttl : UInt8} {t t' : Tracing σ} {outcome : ProbeOutcome}

/-- The attempt met a refusal that did not end the trace, because it lowered the path MTU. -/
def Attempt.overridden (w : World σ) (a : Attempt σ) : Bool :=
  a.lowers w && answer? (a.result w) = some (.decoded .reached)

theorem overridden_restarted (sent : w.sendProbe ttl t = .ok outcome t')
    (changed : t'.session.mtu ≠ t.session.mtu) :
    Attempt.overridden w ⟨ttl, t⟩ = decide (outcome = .decoded .reached) := by
  unfold Attempt.overridden
  rw [lowers_of_ne sent changed, Attempt.result, sent, Bool.true_and]
  simp [answer?]

theorem overridden_same (sent : w.sendProbe ttl t = .ok outcome t')
    (same : t'.session.mtu = t.session.mtu) : Attempt.overridden w ⟨ttl, t⟩ = false := by
  unfold Attempt.overridden Attempt.lowers Attempt.result
  rw [sent, finalState_ok, same]
  simp

theorem overridden_failed {e : Failure} (sent : w.sendProbe ttl t = .error e t') :
    Attempt.overridden w ⟨ttl, t⟩ = false := by
  unfold Attempt.overridden Attempt.result
  rw [sent]
  simp [answer?]

theorem answer?_untoldResult {α : Type}
    (r : EStateM.Result Failure (Tracing (Transcript σ)) α) :
    answer? (untoldResult r) = answer? r := by
  cases r <;> rfl

theorem failure?_untoldResult {α : Type}
    (r : EStateM.Result Failure (Tracing (Transcript σ)) α) :
    failure? (untoldResult r) = failure? r := by
  cases r <;> rfl

/-- A trace is seen to end as it does when it is transcribed. -/
theorem World.trace_told (w : World σ) (t : Tracing σ) :
    answer? (w.trace t) = answer? (w.transcribed.trace t.unspoken) ∧
      failure? (w.trace t) = failure? (w.transcribed.trace t.unspoken) ∧
      finalState (w.trace t) = (finalState (w.transcribed.trace t.unspoken)).untold := by
  rw [w.trace_eq]
  exact ⟨answer?_untoldResult _, failure?_untoldResult _, finalState_untoldResult _⟩

theorem mtu_untoldResult {α : Type} (r : EStateM.Result Failure (Tracing (Transcript σ)) α) :
    (finalState (untoldResult r)).session.mtu = (finalState r).session.mtu := by
  cases r <;> rfl

theorem overridden_untold (a : Attempt (Transcript σ)) :
    a.untold.overridden w = a.overridden w.transcribed := by
  have result : a.untold.result w = untoldResult (a.result w.transcribed) :=
    sendProbe_untold rfl
  unfold Attempt.overridden Attempt.lowers
  rw [result, answer?_untoldResult, mtu_untoldResult]
  rfl

end Overridden

/-- The attempts among `as` whose refusal was overridden. -/
def overridden {σ : Type} (w : World σ) (as : List (Attempt σ)) : List (Attempt σ) :=
  as.filter (·.overridden w)

/-- Since `past` as many refusals were decoded as were overridden, and if `met` one more at
the very end. -/
structure MeetsAlong (past past' : List Exchange) (overridden : Nat) (met : Prop) : Prop where
  no : ¬met → (refusals past').length = (refusals past).length + overridden
  yes : met → (∃ counts, EndsWith counts past') ∧
    (refusals past').length = (refusals past).length + overridden + 1

theorem Meets.along {past past' : List Exchange} {met : Prop} (h : Meets past past' met) :
    MeetsAlong past past' 0 met where
  no no := congrArg List.length (h.no no)
  yes yes := by
    obtain ⟨counts, ends, all⟩ := h.yes yes
    exact ⟨⟨counts, ends⟩, by rw [all, List.length_cons, Nat.add_zero]⟩

theorem Meets.length {past past' : List Exchange} {met : Prop} [Decidable met]
    (h : Meets past past' met) :
    (refusals past').length = (refusals past).length + (decide met).toNat := by
  by_cases yes : met
  · obtain ⟨counts, -, all⟩ := h.yes yes
    rw [all, List.length_cons, decide_eq_true yes, Bool.toNat_true]
  · rw [h.no yes, decide_eq_false yes, Bool.toNat_false, Nat.add_zero]

theorem MeetsAlong.after {past past₁ past₂ : List Exchange} {j k : Nat} {met : Prop}
    (h : MeetsAlong past₁ past₂ k met)
    (before : (refusals past₁).length = (refusals past).length + j) :
    MeetsAlong past past₂ (j + k) met where
  no no := by rw [h.no no, before, Nat.add_assoc]
  yes yes := by
    obtain ⟨ends, all⟩ := h.yes yes
    exact ⟨ends, by rw [all, before, Nat.add_assoc _ j k]⟩

theorem MeetsAlong.from {past past₁ past₂ : List Exchange} {k : Nat} {met : Prop}
    (h : MeetsAlong past₁ past₂ k met) (same : refusals past₁ = refusals past) :
    MeetsAlong past past₂ k met where
  no no := same ▸ h.no no
  yes yes := same ▸ h.yes yes

theorem MeetsAlong.iff {past past' : List Exchange} {k : Nat} {met met' : Prop}
    (h : MeetsAlong past past' k met) (same : met ↔ met') : MeetsAlong past past' k met' where
  no no := h.no ((not_congr same).mpr no)
  yes yes := h.yes (same.mpr yes)

theorem MeetsAlong.length {past past' : List Exchange} {k : Nat} {met : Prop} [Decidable met]
    (h : MeetsAlong past past' k met) :
    (refusals past').length = (refusals past).length + k + (decide met).toNat := by
  by_cases yes : met
  · rw [(h.yes yes).2, decide_eq_true yes, Bool.toNat_true]
  · rw [h.no yes, decide_eq_false yes, Bool.toNat_false, Nat.add_zero]

theorem overridden_append {σ : Type} (w : World σ) (as bs : List (Attempt σ)) :
    overridden w (as ++ bs) = overridden w as ++ overridden w bs := List.filter_append ..

theorem Completion.ofOutcome?_eq_reached_iff (outcome : ProbeOutcome) :
    Completion.ofOutcome? outcome = some .reached ↔ outcome = .decoded .reached := by
  cases outcome with
  | decoded outcome => cases outcome <;> simp [Completion.ofOutcome?]
  | replyReceived => simp [Completion.ofOutcome?]
  | sendFailed => simp [Completion.ofOutcome?]

section Along
variable {σ : Type} {w : World σ} {ttl : UInt8} {t : Tracing (Transcript σ)}

theorem length_overridden_cons (w : World σ) (a : Attempt σ) (as : List (Attempt σ)) :
    (overridden w (a :: as)).length = (a.overridden w).toNat + (overridden w as).length :=
  length_filter_cons ..

theorem length_overridden_untold (as : List (Attempt (Transcript σ))) :
    (overridden w (as.map Attempt.untold)).length = (overridden w.transcribed as).length := by
  unfold overridden
  rw [List.filter_map, List.length_map]
  congr 2
  funext a
  exact overridden_untold a

theorem TtlExec.meets {left : Nat} {as : List (Attempt (Transcript σ))}
    {r : EStateM.Result Failure (Tracing (Transcript σ)) (Option Completion)}
    (h : TtlExec w.transcribed ttl left t as r) :
    MeetsAlong t.world.past (finalState r).world.past (overridden w.transcribed as).length
      (answer? r = some (some .reached)) := by
  induction h with
  | @unanswered t =>
    have same : refusals (.event (.noReply ttl) :: t.world.past) = refusals t.world.past := rfl
    exact (Meets.of_not same (by simp [answer?])).along
  | failed sent =>
    rw [length_overridden_cons, overridden_failed sent]
    refine ((meets_sendProbe sent).iff ?_).along
    simp [answer?]
  | ended sent same ended =>
    rw [length_overridden_cons, overridden_same sent same]
    refine ((meets_sendProbe sent).iff ?_).along
    rw [answer?, answer?, ← ended]
    simp [Completion.ofOutcome?_eq_reached_iff]
  | advanced sent same =>
    rw [length_overridden_cons, overridden_same sent same]
    refine ((meets_sendProbe sent).iff ?_).along
    simp [answer?]
  | restarted sent changed _ ih =>
    rw [length_overridden_cons, overridden_restarted sent changed]
    refine ih.after ?_
    have len := (meets_sendProbe sent).length
    simpa only [answer?, Option.some.injEq, finalState_ok] using len
  | repeated sent same going _ _ ih =>
    rw [length_overridden_cons, overridden_same sent same]
    refine ih.after ?_
    have none := (meets_sendProbe sent).no (by
      intro reached
      injection reached with reached
      subst reached
      cases going)
    exact congrArg List.length none

theorem PathExec.meets {ttls : List UInt8} {walk : List (List (Attempt (Transcript σ)))}
    {r : EStateM.Result Failure (Tracing (Transcript σ)) Completion}
    (h : PathExec w.transcribed ttls t walk r) :
    MeetsAlong t.world.past (finalState r).world.past
      (overridden w.transcribed walk.flatten).length (answer? r = some .reached) := by
  induction h with
  | spent => exact (Meets.of_not rfl (by simp [answer?])).along
  | unset set =>
    have hs := refusals_perform (fun _ _ => rfl) set
    exact (Meets.of_not hs (by simp [answer?])).along
  | failed set probed =>
    have hs := refusals_perform (fun _ _ => rfl) set
    rw [List.flatten_cons, List.flatten_nil, List.append_nil]
    refine (probed.meets.from hs).iff ?_
    simp [answer?]
  | ended set probed =>
    have hs := refusals_perform (fun _ _ => rfl) set
    rw [List.flatten_cons, List.flatten_nil, List.append_nil]
    refine (probed.meets.from hs).iff ?_
    simp [answer?]
  | advanced set probed _ ih =>
    have hs := refusals_perform (fun _ _ => rfl) set
    have hp := (probed.meets.from hs).no (by simp [answer?])
    rw [List.flatten_cons, overridden_append, List.length_append]
    exact ih.after hp

end Along

/-- The hop counts are those of the refusal that ended the trace, and absent without one. -/
def Summary.Final (summary : Summary) (past : List Exchange) : Prop :=
  (summary.hopsTo.isSome ↔ summary.completion = .reached) ∧
  (summary.completion = .reached → ∃ counts, EndsWith counts past ∧
    summary.hopsTo = some counts.there ∧ summary.hopsFrom = counts.back)

section Final
variable {summary : Summary} {past : List Exchange}

/-- The counts of the first refusal are final if it is the only one or says what the last
says. -/
theorem Summary.final_iff {overridden : Nat}
    (there : summary.hopsTo = (refusals past).getLast?.map (·.there))
    (back : summary.hopsFrom = (refusals past).getLast?.bind (·.back))
    (met : MeetsAlong [] past overridden (summary.completion = .reached)) :
    summary.Final past ↔ overridden = 0 ∨
      (summary.completion = .reached ∧ (refusals past).head? = (refusals past).getLast?) := by
  by_cases reached : summary.completion = .reached
  · obtain ⟨⟨counts, ends⟩, all⟩ := met.yes reached
    have single : overridden = 0 → (refusals past).head? = (refusals past).getLast? := by
      intro none
      rw [none] at all
      obtain ⟨one, only⟩ := List.length_eq_one_iff.mp all
      rw [only]
      rfl
    constructor
    · intro final
      obtain ⟨counts', ends', there', back'⟩ := final.2 reached
      refine .inr ⟨reached, ?_⟩
      rw [ends'.head?]
      cases last : (refusals past).getLast? with
      | none => simp [there, last] at there'
      | some first =>
        simp only [there, last, Option.map_some, Option.some.injEq] at there'
        simp only [back, last, Option.bind_some] at back'
        rw [HopCounts.ext there' back']
    · intro h
      have same : (refusals past).getLast? = some counts := by
        rw [← ends.head?]
        exact (h.elim single And.right).symm
      rw [same] at there back
      exact ⟨⟨fun _ => reached, fun _ => by rw [there]; rfl⟩, fun _ => ⟨counts, ends, there, back⟩⟩
  · have all : (refusals past).length = overridden := (met.no reached).trans (Nat.zero_add _)
    constructor
    · intro final
      left
      rw [← all, List.length_eq_zero_iff, ← List.getLast?_eq_none_iff]
      cases last : (refusals past).getLast? with
      | none => rfl
      | some first =>
        rw [last] at there
        exact absurd (final.1.mp (by rw [there]; rfl)) reached
    · intro h
      have none : overridden = 0 := h.resolve_right fun both => reached both.1
      rw [none, List.length_eq_zero_iff] at all
      rw [all] at there
      constructor
      · rw [there]
        simp [reached]
      · intro yes
        exact absurd yes reached

end Final

section Trace
variable {σ : Type} (w : World σ) (c : SessionConfig) (s : σ)

/-- The session of a trace that ends keeps the counts of the first refusal. They are those of
the refusal that ended the trace if and only if no attempt was overridden, or the two agree. -/
theorem trace_hopCounts {summary : Summary} {t' : Tracing σ}
    (traced : w.trace ⟨Session.start c, s⟩ = .ok summary t') :
    ∃ walk, TraceExec w ⟨Session.start c, s⟩ walk (.ok summary t') ∧
      ∀ past, past = w.transcribed.trace.transcript ⟨Session.start c, s⟩ →
        summary.hopsTo = (refusals past).getLast?.map (·.there) ∧
        summary.hopsFrom = (refusals past).getLast?.bind (·.back) ∧
        (summary.completion = .reached → ∃ counts, EndsWith counts past) ∧
        (refusals past).length = (overridden w walk.flatten).length +
          (decide (summary.completion = .reached)).toNat ∧
        (summary.Final past ↔ overridden w walk.flatten = [] ∨
          (summary.completion = .reached ∧ (refusals past).head? = (refusals past).getLast?)) := by
  have first := lands_firstCounts w c s
  -- The refusals are counted along the execution of the transcribed trace, which is that of
  -- the plain one once it is untold.
  obtain ⟨told, h⟩ := w.transcribed.trace_exec (Tracing.unspoken ⟨Session.start c, s⟩)
  have result := w.trace_eq ⟨Session.start c, s⟩
  rw [traced] at result
  have numbers : (overridden w (told.map (·.map Attempt.untold)).flatten).length =
      (overridden w.transcribed told.flatten).length := by
    rw [← List.map_flatten]
    exact length_overridden_untold told.flatten
  refine ⟨told.map (·.map Attempt.untold), result ▸ h.untold, ?_⟩
  intro past isPast
  subst isPast
  unfold Step.transcript
  generalize w.transcribed.trace (Tracing.unspoken ⟨Session.start c, s⟩) = r at first h result ⊢
  cases h with
  | failed path => cases result
  | @finished completion u path =>
    injection result with result
    subst result
    have met : MeetsAlong [] u.world.past _ (completion = .reached) :=
      path.meets.iff (by simp [answer?])
    obtain ⟨there, back⟩ := first.first
    refine ⟨there, back, fun reached => (met.yes reached).1, ?_, ?_⟩
    · rw [numbers]
      exact met.length.trans (congrArg (· + _) (Nat.zero_add _))
    · rw [← List.length_eq_zero_iff, numbers]
      exact Summary.final_iff there back met

end Trace

namespace StaleCounts
open Simulation

/-- A note that echoes the probe it answers. -/
def note (code : ErrorCode) (info : UInt32) : Note :=
  .notification 0 .sent .echo (some ⟨.icmp, code, 3, 4, info, none⟩) (some 64)

/-- One probe is told a lower path MTU and that it has arrived, and no other is answered. -/
def network : ScriptedNetwork :=
  .start ⟨1000000000⟩
    [{ ScriptEntry.empty with notes := [note .messageTooBig 1400, note .connectionRefused 0] }]
    fun _ => none

def world : World ScriptedNetwork := scriptedNetwork.attendedBy (Audience.silent _)

def config : SessionConfig := { SessionConfig.default with mtu := 1500, maxTtl := 1 }

theorem traced : ∃ t', world.trace ⟨Session.start config, network⟩ =
    .ok ⟨1400, some 1, some 1, .tooManyHops⟩ t' := by
  have h : (world.traceWithin 4 ⟨Session.start config, network⟩).bind answer? =
      some ⟨1400, some 1, some 1, .tooManyHops⟩ := by decide +kernel
  obtain ⟨r, within, answered⟩ := Option.bind_eq_some_iff.mp h
  obtain ⟨t', rfl⟩ := answer?_eq_some_iff.mp answered
  exact ⟨t', World.trace_of_within within⟩

end StaleCounts

/-- The counts of an overridden refusal outlive a trace that never arrives. -/
theorem not_final_staleCounts :
    ∃ summary t', StaleCounts.world.trace ⟨Session.start StaleCounts.config, StaleCounts.network⟩ =
        .ok summary t' ∧
      ¬summary.Final (StaleCounts.world.transcribed.trace.transcript
        ⟨Session.start StaleCounts.config, StaleCounts.network⟩) := by
  obtain ⟨t', traced⟩ := StaleCounts.traced
  refine ⟨_, t', traced, ?_⟩
  intro final
  have reached := final.1.mp rfl
  cases reached

theorem trace_hopCounts_staleCounts :
    ∃ summary t', StaleCounts.world.trace ⟨Session.start StaleCounts.config, StaleCounts.network⟩ =
        .ok summary t' ∧
      ∃ walk, TraceExec StaleCounts.world
        ⟨Session.start StaleCounts.config, StaleCounts.network⟩ walk (.ok summary t') ∧
        overridden StaleCounts.world walk.flatten ≠ [] := by
  obtain ⟨t', traced⟩ := StaleCounts.traced
  obtain ⟨walk, exec, counts⟩ := trace_hopCounts _ _ _ traced
  refine ⟨_, t', traced, walk, exec, ?_⟩
  intro none
  have final := (counts _ rfl).2.2.2.2.mpr (.inl none)
  have reached := final.1.mp rfl
  cases reached

end HopTrace
