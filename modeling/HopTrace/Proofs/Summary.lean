import HopTrace.Proofs.HopCounts
import HopTrace.Proofs.ProbeBudget
import HopTrace.Proofs.Published

/-!
# The summary and the events

Whoever follows the events of a trace knows its summary. The path MTU is the least that
was announced, the hop counts begin with the first hop that had reached the target, and the
last event says how the trace ended.

Events are published by the decoder, by the probe engine and by the loop over a ttl. At
each of these levels an answer goes along with the last event, and an answer that goes with
none leads to another probe or to giving up the ttl, which is an event again. So the
agreement holds after attempts that were made in vain as well.
-/
namespace HopTrace

/-- The hop that had reached the target, if the event is one. -/
def Event.arrival? : Event → Option Hop
  | .hop h => if h.status = .reached then some h else none
  | _ => none

/-- The first hop published that had reached the target. -/
def firstReached (events : List Event) : Option Hop := events.findSome? Event.arrival?

/-- How a trace ends whose last hop has this status. A router on the way and a lowered path
MTU do not end it, so that it went through all its ttls. -/
def HopStatus.completion : HopStatus → Completion
  | .reached => .reached
  | .protocolError | .hostUnreachable | .netUnreachable | .accessDenied | .netError _ => .hardError
  | .hop _ | .pathMtu _ => .tooManyHops

/-- How a trace ends whose last event is this one. None ends with a notification that says
nothing. -/
def Event.completion? : Event → Option Completion
  | .hop h => some h.status.completion
  | .noInfo => none
  | .replyReceived _ => some .replyReceived
  | .sendFailed _ => some .sendFailed
  | .noReply _ => some .tooManyHops

/-- How a trace ends that has published these events last. -/
def verdict (events : List Event) : Option Completion := events.getLast?.bind Event.completion?

theorem verdict_concat (events : List Event) (e : Event) :
    verdict (events ++ [e]) = e.completion? := by
  simp [verdict]

theorem exists_last_of_verdict {events : List Event} {completion : Completion}
    (h : verdict events = some completion) :
    ∃ last, events.getLast? = some last ∧ last.completion? = some completion :=
  Option.bind_eq_some_iff.mp h

theorem firstReached_concat (events : List Event) (e : Event) :
    firstReached (events ++ [e]) = (firstReached events).or e.arrival? := by
  unfold firstReached
  rw [List.findSome?_append, List.findSome?_singleton]

/-- The session keeps the hop counts of the first hop that had reached the target. -/
structure Arrivals (s : Session) (past : List Exchange) : Prop where
  positive : s.Positive
  counts : ∃ counts, s.Keeps counts ∧
    counts.map (·.there) = (firstReached (published past)).map Hop.number

namespace Arrivals
variable {s s' : Session} {ttl : UInt8} {past : List Exchange}

theorem start (c : SessionConfig) : Arrivals (Session.start c) [] where
  positive slot r found := by simp [Session.start] at found
  counts := ⟨none, ⟨rfl, rfl⟩, rfl⟩

theorem unpublished {x : Exchange} (h : Arrivals s past) (unpublished : x.event? = none) :
    Arrivals s (x :: past) where
  positive := h.positive
  counts := by
    rw [published_other unpublished]
    exact h.counts

theorem event {e : Event} (h : Arrivals s past) (elsewhere : e.arrival? = none) :
    Arrivals s (.event e :: past) where
  positive := h.positive
  counts := by
    rw [published_event, firstReached_concat, elsewhere, Option.or_none]
    exact h.counts

theorem taken (h : Arrivals s past) (n : Notification) : Arrivals (s.taken n) past where
  positive := h.positive.taken n
  counts := by
    obtain ⟨counts, keeps, first⟩ := h.counts
    exact ⟨counts, keeps.taken n, first⟩

theorem decode {names : List Exchange} {n : Notification} {hop : Hop} (h : Arrivals s past)
    (decoded : s.decode ttl n = .ok (some hop) s')
    (asked : ∀ x ∈ names, ∃ a name, x = Exchange.resolve a name) (responder : Responder) :
    Arrivals s' (.event (.hop { hop with responder }) ::
      (names ++ .receiveNotification (.ok (some n)) :: past)) where
  positive := h.positive.decode decoded
  counts := by
    obtain ⟨counts, keeps, first⟩ := h.counts
    have refusal := status_decode decoded
    refine ⟨_, keeps.decode h.positive decoded, ?_⟩
    rw [published_decoded _ n asked, firstReached_concat, Option.map_or, ← first]
    by_cases reached : hop.status = .reached
    · have arrival : (Event.hop { hop with responder }).arrival? =
        some { hop with responder } := if_pos reached
      rw [if_pos (refusal.mp reached), arrival]
      cases counts <;> rfl
    · have arrival : (Event.hop { hop with responder }).arrival? = none := if_neg reached
      rw [if_neg (mt refusal.mpr reached), arrival]
      cases counts <;> rfl

end Arrivals

theorem maintains_arrivals {σ : Type} (w : World σ) {ttl : UInt8} (positive : 0 < ttl) :
    w.Maintains ttl Arrivals (fun _ _ _ => True) where
  unread _ _ _ := trivial
  emptied h := h.unpublished rfl
  undecoded _ _ _ _ := trivial
  uninformed n h decoded := by
    obtain ⟨-, -, rfl⟩ := Session.decode_uninformed decoded
    exact ((h.taken n).unpublished rfl).event rfl
  decoded n hop responder names h decoded asked := h.decode decoded asked responder
  sent slot now answer h _ := by
    have read := h.unpublished (x := .now now) rfl
    exact ⟨h.positive.record positive slot now, (read.unpublished rfl).counts⟩
  unsent _ _ _ _ _ _ := trivial
  awaited _ h := h.unpublished rfl
  unawaited _ _ _ := trivial
  answered _ h := h.unpublished rfl
  unanswered _ _ _ := trivial
  published e engine h := by
    simp only [List.mem_cons, List.not_mem_nil, or_false] at engine
    obtain rfl | rfl | rfl := engine <;> exact h.event rfl
  cleared slot h := ⟨h.positive.clear slot, h.counts⟩
  advanced h := ⟨h.positive, h.counts⟩

theorem lands_arrivals {σ : Type} (w : World σ) (c : SessionConfig) (s : σ) :
    Lands Arrivals (fun _ _ _ => True)
      (w.transcribed.trace (Tracing.unspoken ⟨Session.start c, s⟩)) := by
  refine World.Maintains.lands_trace ?_ ?_ (Arrivals.start c)
  · intro ttl m
    exact maintains_arrivals w (Session.pos_of_mem_ttls m)
  · intro ttl _
    exact ⟨fun h => h.unpublished rfl, fun _ _ _ => trivial⟩

/-- How a trace ends if it ends with this answer. An answer that goes with no event has
none. -/
def DrainOutcome.completion? : DrainOutcome → Option Completion
  | .reached => some .reached
  | .hardError => some .hardError
  | .progress => some .tooManyHops
  | .mtuChanged | .exhausted => none

def ProbeOutcome.completion? : ProbeOutcome → Option Completion
  | .decoded outcome => outcome.completion?
  | .replyReceived => some .replyReceived
  | .sendFailed => some .sendFailed

theorem Event.completion?_hop (h : Hop) :
    (Event.hop h).completion? =
      ((DrainOutcome.ofStatus? h.status).getD .progress).completion? := by
  unfold Event.completion?
  dsimp only
  cases h.status <;> rfl

theorem DrainOutcome.completion?_atEnd {initial mtu : UInt32} {progress : Bool}
    {completion : Completion}
    (h : (atEnd initial mtu progress).completion? = some completion) :
    progress = true ∧ completion = .tooManyHops := by
  unfold atEnd at h
  split at h
  · cases h
  · split at h
    · next made =>
      injection h with h
      exact ⟨made, h.symm⟩
    · cases h

theorem Completion.completion?_of_ofOutcome? {outcome : ProbeOutcome} {completion : Completion}
    (h : ofOutcome? outcome = some completion) : outcome.completion? = some completion := by
  cases outcome with
  | decoded outcome => cases outcome <;> first | exact h | cases h
  | replyReceived => exact h
  | sendFailed => exact h

section Verdict
variable {σ : Type} {w : World σ} {ttl : UInt8} {t : Tracing (Transcript σ)}

/-- The events of a round of a drain. -/
def told : Option (Option Hop) → List Event
  | none => []
  | some none => [.noInfo]
  | some (some hop) => [.hop hop]

theorem published_readOne {found : Option (Option Hop)} {t' : Tracing (Transcript σ)}
    (read : w.transcribed.readOne ttl t = .ok found t') :
    published t'.world.past = published t.world.past ++ told found := by
  rw [World.transcribed_readOne] at read
  split at read
  · cases read
  · injection read with found state
    subst found state
    exact (List.append_nil _).symm
  · next n s _ =>
    split at read
    · cases read
    · injection read with found state
      subst found state
      exact published_event _ _
    · next hop session _ =>
      obtain ⟨names, asked, named⟩ := w.transcribed_name session.mode hop.responder
        ⟨.receiveNotification (.ok (some n)) :: t.world.past, s⟩
      simp only [named] at read
      injection read with found state
      subst found state
      exact published_decoded _ n asked

/-- What a drain answers goes with its last event, or with the last before it when it has
none of its own. -/
theorem DrainExec.verdict {initial : UInt32} {progress : Bool}
    {r : EStateM.Result Failure (Tracing (Transcript σ)) DrainOutcome} {outcome : DrainOutcome}
    {completion : Completion} (h : DrainExec w.transcribed ttl initial progress t r)
    (before : progress = true → verdict (published t.world.past) = some .tooManyHops)
    (answer : answer? r = some outcome) (ends : outcome.completion? = some completion) :
    verdict (published (finalState r).world.past) = some completion := by
  induction h with
  | failed read => cases answer
  | emptied read =>
    injection answer with answer
    subst answer
    obtain ⟨made, rfl⟩ := DrainOutcome.completion?_atEnd ends
    have same := published_readOne read
    rw [told, List.append_nil] at same
    rw [finalState_ok, same]
    exact before made
  | uninformed read =>
    injection answer with answer
    subst answer
    cases ends
  | @stopped _ t hop t' _ read stop =>
    injection answer with answer
    subst answer
    rw [finalState_ok, published_readOne read, told, verdict_concat, Event.completion?_hop, stop]
    exact ends
  | @decoded _ t hop t' r read go _ ih =>
    refine ih ?_ answer
    intro _
    rw [published_readOne read, told, verdict_concat, Event.completion?_hop, go]
    rfl

theorem verdict_drain {outcome : DrainOutcome} {t' : Tracing (Transcript σ)}
    {completion : Completion} (drained : w.transcribed.drain ttl t = .ok outcome t')
    (ends : outcome.completion? = some completion) :
    verdict (published t'.world.past) = some completion := by
  have h := w.transcribed.drain_exec ttl t
  rw [drained] at h
  exact h.verdict (by simp) rfl ends

theorem LaunchExec.verdict {slot : Slot} {n : Nat}
    {r : EStateM.Result Failure (Tracing (Transcript σ)) Launch} {outcome : DrainOutcome}
    {completion : Completion} (h : LaunchExec w.transcribed ttl slot n t r)
    (answer : answer? r = some (.ended outcome)) (ends : outcome.completion? = some completion) :
    verdict (published (finalState r).world.past) = some completion := by
  induction h with
  | refused => cases answer
  | failed _ => cases answer
  | sent _ => cases answer
  | undrained _ _ => cases answer
  | ended _ drained _ =>
    injection answer with answer
    injection answer with answer
    subst answer
    have verdict := verdict_drain drained ends
    exact verdict
  | retried _ _ _ _ ih => exact ih answer

theorem CollectExec.verdict {r : EStateM.Result Failure (Tracing (Transcript σ)) ProbeOutcome}
    {outcome : ProbeOutcome} {completion : Completion} (h : CollectExec w.transcribed ttl t r)
    (answer : answer? r = some outcome) (ends : outcome.completion? = some completion) :
    verdict (published (finalState r).world.past) = some completion := by
  cases h with
  | unawaited _ => cases answer
  | unanswered _ _ => cases answer
  | undrained _ _ _ => cases answer
  | @replied _ _ _ t₂ _ _ =>
    injection answer with answer
    subst answer
    exact ((congrArg HopTrace.verdict (published_event _ t₂.world.past)).trans
      (verdict_concat _ _)).trans ends
  | drained _ _ drained =>
    injection answer with answer
    subst answer
    exact verdict_drain drained ends

theorem verdict_sendProbe {outcome : ProbeOutcome} {t' : Tracing (Transcript σ)}
    {completion : Completion} (sent : w.transcribed.sendProbe ttl t = .ok outcome t')
    (ends : outcome.completion? = some completion) :
    verdict (published t'.world.past) = some completion := by
  have h := sent ▸ w.transcribed.sendProbe_exec ttl t
  have launch := w.transcribed.launch_exec ttl t.session.history.cursor maxSendAttempts t
  cases h with
  | sent _ collected => exact collected.verdict rfl ends
  | ended launched =>
    rw [launched] at launch
    exact launch.verdict rfl ends
  | @refused t₁ _ =>
    exact ((congrArg verdict (published_event _ t₁.world.past)).trans
      (verdict_concat _ _)).trans ends

/-- A ttl that leaves the trace going does so with an event that would end it. -/
theorem TtlExec.verdict {left : Nat} {as : List (Attempt (Transcript σ))}
    {r : EStateM.Result Failure (Tracing (Transcript σ)) (Option Completion)}
    {found : Option Completion} (h : TtlExec w.transcribed ttl left t as r)
    (answer : answer? r = some found) :
    verdict (published (finalState r).world.past) = some (found.getD .tooManyHops) := by
  induction h with
  | @unanswered t =>
    injection answer with answer
    subst answer
    exact (congrArg HopTrace.verdict (published_event _ t.world.past)).trans (verdict_concat _ _)
  | failed _ => cases answer
  | restarted _ _ _ ih => exact ih answer
  | ended sent _ ended =>
    injection answer with answer
    subst answer
    exact verdict_sendProbe sent (Completion.completion?_of_ofOutcome? ended)
  | advanced sent _ =>
    injection answer with answer
    subst answer
    exact verdict_sendProbe sent rfl
  | repeated _ _ _ _ _ ih => exact ih answer

theorem PathExec.verdict {ttls : List UInt8} {walk : List (List (Attempt (Transcript σ)))}
    {r : EStateM.Result Failure (Tracing (Transcript σ)) Completion} {completion : Completion}
    (h : PathExec w.transcribed ttls t walk r) (answer : answer? r = some completion)
    (begun : ttls ≠ [] ∨ verdict (published t.world.past) = some .tooManyHops) :
    verdict (published (finalState r).world.past) = some completion := by
  induction h with
  | spent =>
    injection answer with answer
    subst answer
    exact begun.resolve_left (not_not_intro rfl)
  | unset _ => cases answer
  | failed _ _ => cases answer
  | ended _ probed =>
    injection answer with answer
    subst answer
    exact probed.verdict rfl
  | advanced _ probed _ ih => exact ih answer (.inr (probed.verdict rfl))

end Verdict

/-- The summary says what the events say, in a trace that began with this path MTU. -/
structure Summary.AgreesWith (summary : Summary) (initial : UInt32) (events : List Event) :
    Prop where
  pmtu : summary.pmtu = estimate initial events
  hopsTo : summary.hopsTo = (firstReached events).map Hop.number
  hopsFrom : summary.hopsFrom.isSome → summary.hopsTo.isSome

/-- Every trace that ends has published what it sums up, and has published how it ended last
of all, unless it had no ttl to probe. -/
theorem trace_summary {σ : Type} (w : World σ) (c : SessionConfig) (s : σ) {summary : Summary}
    {t' : Tracing σ} (traced : w.trace ⟨Session.start c, s⟩ = .ok summary t') :
    ∀ events, events = published (w.transcribed.trace.transcript ⟨Session.start c, s⟩) →
      summary.AgreesWith c.mtu events ∧
      (1 ≤ c.maxTtl → ∃ last, events.getLast? = some last ∧
        last.completion? = some summary.completion) := by
  have estimates := estimates_trace w c s
  have arrived := lands_arrivals w c s
  obtain ⟨walk, h⟩ := w.transcribed.trace_exec (Tracing.unspoken ⟨Session.start c, s⟩)
  have result := w.trace_eq ⟨Session.start c, s⟩
  rw [result] at estimates
  rw [traced] at result
  intro events isEvents
  subst isEvents
  unfold Step.transcript at estimates ⊢
  generalize w.transcribed.trace (Tracing.unspoken ⟨Session.start c, s⟩) = r
    at estimates arrived h result ⊢
  cases h with
  | failed path => cases result
  | @finished completion u path =>
    injection result with result
    subst result
    obtain ⟨counts, ⟨there, back⟩, first⟩ := arrived.counts
    constructor
    · have hopsTo : u.session.hopsTo = (firstReached (published u.world.past)).map Hop.number :=
        there.trans first
      refine ⟨estimates.mtu, hopsTo, ?_⟩
      intro returned
      change u.session.hopsFrom.isSome at returned
      change u.session.hopsTo.isSome
      rw [back] at returned
      rw [there]
      cases counts with
      | none => cases returned
      | some counts => rfl
    · intro some
      refine exists_last_of_verdict (path.verdict rfl (.inl ?_))
      intro none
      have length := congrArg List.length none
      rw [Session.length_ttls] at length
      have positive : 1 ≤ c.maxTtl.toNat := UInt8.le_iff_toNat_le.mp some
      have zero : c.maxTtl.toNat = 0 := length
      omega

theorem trace_summary_staleCounts :
    ∃ t', StaleCounts.world.trace ⟨Session.start StaleCounts.config, StaleCounts.network⟩ =
        .ok ⟨1400, some 1, some 1, .tooManyHops⟩ t' ∧
      1 ≤ StaleCounts.config.maxTtl ∧
      ∀ events, events = published (StaleCounts.world.transcribed.trace.transcript
          ⟨Session.start StaleCounts.config, StaleCounts.network⟩) →
        estimate 1500 events = 1400 ∧ (firstReached events).map Hop.number = some 1 ∧
        ∃ last, events.getLast? = some last ∧ last.completion? = some .tooManyHops := by
  obtain ⟨t', traced⟩ := StaleCounts.traced
  have some : 1 ≤ StaleCounts.config.maxTtl := by decide
  refine ⟨t', traced, some, ?_⟩
  intro events isEvents
  obtain ⟨agrees, ends⟩ := trace_summary _ _ _ traced events isEvents
  exact ⟨agrees.pmtu.symm, agrees.hopsTo.symm, ends some⟩

end HopTrace
