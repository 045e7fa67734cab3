import HopTrace.Proofs.Transcript

/-!
# Invariants of a trace

An invariant speaks of the session and of the transcript so far. It is checked at each
act of the probe engine, with the exchange that act adds to the transcript, and then
holds wherever a drain, a probe or a trace can end. What holds at a failure may differ
from the invariant, and is stated beside it.

A self-comparison in the sense of `HopTrace.Proofs.Simulation` carries an invariant
through the loops, so they are not gone through again.
-/
namespace HopTrace

variable {σ α : Type}

/-- Some call of the network can fail with `e`. -/
def World.MayFail (w : World σ) (e : Failure) : Prop :=
  (∃ ttl s s', w.setTtl ttl s = .error e s') ∨
  (∃ payload port s s', w.send payload port s = .error e s') ∨
  (∃ limit s s', w.awaitReadable limit s = .error e s') ∨
  (∃ s s', w.receiveReply s = .error e s') ∨
  (∃ s s', w.receiveNotification s = .error e s')

/-- The step ended where `J` holds, or failed where `E` does. -/
def Lands (J : Session → List Exchange → Prop) (E : Failure → Session → List Exchange → Prop) :
    EStateM.Result Failure (Tracing (Transcript σ)) α → Prop
  | .ok _ t => J t.session t.world.past
  | .error e t => E e t.session t.world.past

/-- Every round of a drain at `ttl` keeps `J`, and leads to `E` if it fails. -/
structure World.MaintainsDrain (w : World σ) (ttl : UInt8) (J : Session → List Exchange → Prop)
    (E : Failure → Session → List Exchange → Prop) : Prop where
  unread : ∀ {s past} e, J s past → w.MayFail e → E e s (.receiveNotification (.error e) :: past)
  emptied : ∀ {s past}, J s past → J s (.receiveNotification (.ok none) :: past)
  undecoded : ∀ {s past s'} n e, J s past → s.decode ttl n = .error e s' →
    E e s' (.receiveNotification (.ok (some n)) :: past)
  uninformed : ∀ {s past s'} n, J s past → s.decode ttl n = .ok none s' →
    J s' (.event .noInfo :: .receiveNotification (.ok (some n)) :: past)
  decoded : ∀ {s past s'} n hop responder names, J s past → s.decode ttl n = .ok (some hop) s' →
    (∀ x ∈ names, ∃ a name, x = Exchange.resolve a name) →
    J s' (.event (.hop { hop with responder }) ::
      (names ++ .receiveNotification (.ok (some n)) :: past))

/-- Every act of the probe engine at `ttl` keeps `J`, and leads to `E` if it fails. -/
structure World.Maintains (w : World σ) (ttl : UInt8) (J : Session → List Exchange → Prop)
    (E : Failure → Session → List Exchange → Prop) : Prop extends w.MaintainsDrain ttl J E where
  sent : ∀ {s past} slot now answer, J s past →
    (answer = .ok () ∨ ∃ cause, answer = .error (.probeFailed cause)) →
    J (s.record slot ttl now) (.send ((s.record slot ttl now).payload ttl now)
      (slot.port s.basePort) answer :: .now now :: past)
  unsent : ∀ {s past} slot now e, J s past → w.MayFail e → (∀ cause, e ≠ .probeFailed cause) →
    E e (s.record slot ttl now) (.send ((s.record slot ttl now).payload ttl now)
      (slot.port s.basePort) (.error e) :: .now now :: past)
  awaited : ∀ {s past} readable, J s past → J s (.awaitReadable replyWait (.ok readable) :: past)
  unawaited : ∀ {s past} e, J s past → w.MayFail e →
    E e s (.awaitReadable replyWait (.error e) :: past)
  answered : ∀ {s past} size, J s past → J s (.receiveReply (.ok size) :: past)
  unanswered : ∀ {s past} e, J s past → w.MayFail e → E e s (.receiveReply (.error e) :: past)
  published : ∀ {s past}, ∀ e ∈ [Event.replyReceived ttl, .sendFailed ttl, .noReply ttl],
    J s past → J s (.event e :: past)
  cleared : ∀ {s past} slot, J s past → J (s.clear slot) past
  advanced : ∀ {s past}, J s past → J s.advance past

/-- Setting the hop limit to `ttl` keeps `J`, and leads to `E` if it fails. -/
structure World.MaintainsSetTtl (w : World σ) (ttl : UInt8) (J : Session → List Exchange → Prop)
    (E : Failure → Session → List Exchange → Prop) : Prop where
  set : ∀ {s past}, J s past → J s (.setTtl ttl (.ok ()) :: past)
  unset : ∀ {s past} e, J s past → w.MayFail e → E e s (.setTtl ttl (.error e) :: past)

section
variable (J : Session → List Exchange → Prop) (E : Failure → Session → List Exchange → Prop)

/-- The comparison of a transcribed trace with itself, where `J` holds. -/
def Along (t u : Tracing (Transcript σ)) : Prop := t = u ∧ J t.session t.world.past

def AlongFailure (e : Failure) (t : Tracing (Transcript σ)) (f : Failure)
    (u : Tracing (Transcript σ)) : Prop :=
  (e = f ∧ t = u) ∧ E e t.session t.world.past

variable {J E}

theorem Lands.agree {r : EStateM.Result Failure (Tracing (Transcript σ)) α} (h : Lands J E r) :
    Agree (Along J) (AlongFailure E) (· = ·) r r := by
  cases r with
  | ok a t => exact ⟨rfl, rfl, h⟩
  | error e t => exact ⟨⟨rfl, rfl⟩, h⟩

theorem Agree.lands {r : EStateM.Result Failure (Tracing (Transcript σ)) α}
    (h : Agree (Along J) (AlongFailure E) (· = ·) r r) : Lands J E r := by
  cases r with
  | ok a t => exact h.2.2
  | error e t => exact h.2

theorem Lands.ends {r : EStateM.Result Failure (Tracing (Transcript σ)) α} (h : Lands J E r) :
    Ends (fun t => J t.session t.world.past) (fun e t => E e t.session t.world.past) r := by
  cases r <;> exact h

theorem Ends.lands {r : EStateM.Result Failure (Tracing (Transcript σ)) α}
    (h : Ends (fun t => J t.session t.world.past) (fun e t => E e t.session t.world.past) r) :
    Lands J E r := by
  cases r <;> exact h

theorem Lands.finalState {r : EStateM.Result Failure (Tracing (Transcript σ)) α}
    (h : Lands J (fun _ => J) r) : J (finalState r).session (finalState r).world.past := by
  cases r with
  | ok a t => exact h
  | error e t => exact h

end

section
variable {w : World σ} {ttl : UInt8} {J : Session → List Exchange → Prop}
variable {E : Failure → Session → List Exchange → Prop} {t : Tracing (Transcript σ)}

theorem lands_perform {mark : Except Failure α → Exchange} {act : EStateM Failure σ α}
    (ok : ∀ a, J t.session (mark (.ok a) :: t.world.past))
    (error : ∀ e s s', act s = .error e s' → E e t.session (mark (.error e) :: t.world.past)) :
    Lands J E (Step.world (Transcript.perform mark act) t) := by
  unfold Step.world Transcript.perform
  cases acted : act t.world.inner with
  | ok a s => exact ok a
  | error e s => exact error e _ _ acted

namespace World.MaintainsDrain

theorem lands_readOne (h : w.MaintainsDrain ttl J E) (hJ : J t.session t.world.past) :
    Lands J E (w.transcribed.readOne ttl t) := by
  rw [World.transcribed_readOne]
  cases read : w.receiveNotification t.world.inner with
  | error e s => exact h.unread e hJ (.inr (.inr (.inr (.inr ⟨_, _, read⟩))))
  | ok found s =>
    cases found with
    | none => exact h.emptied hJ
    | some n =>
      dsimp only
      cases decoded : t.session.decode ttl n with
      | error e session => exact h.undecoded n e hJ decoded
      | ok found session =>
        cases found with
        | none => exact h.uninformed n hJ decoded
        | some hop =>
          obtain ⟨names, asked, named⟩ := w.transcribed_name session.mode hop.responder
            ⟨.receiveNotification (.ok (some n)) :: t.world.past, s⟩
          simp only [named]
          exact h.decoded n hop _ names hJ decoded asked

theorem simulates (h : w.MaintainsDrain ttl J E) :
    w.transcribed.SimulatesDrain (Along J) (AlongFailure E) w.transcribed ttl where
  mtu h := h.1 ▸ rfl
  readOne := by
    rintro t _ ⟨rfl, hJ⟩
    exact (h.lands_readOne hJ).agree.mono fun a b same => same ▸ rfl

theorem lands_drain (h : w.MaintainsDrain ttl J E) (hJ : J t.session t.world.past) :
    Lands J E (w.transcribed.drain ttl t) :=
  (h.simulates.drain ⟨rfl, hJ⟩).lands

end World.MaintainsDrain

namespace World.Maintains

theorem lands_shoot (h : w.Maintains ttl J E) (slot : Slot) (hJ : J t.session t.world.past) :
    Lands J E (w.transcribed.shoot ttl slot t) := by
  rw [World.shoot_eq, World.transcribed_trySend]
  cases sent : w.send _ _ _ with
  | ok u s => exact h.sent slot _ _ hJ (.inl rfl)
  | error e s =>
    have may : w.MayFail e := .inr (.inl ⟨_, _, _, _, sent⟩)
    cases e with
    | probeFailed cause => exact h.sent slot _ _ hJ (.inr ⟨cause, rfl⟩)
    | io cause => exact h.unsent slot _ _ hJ may (by simp)
    | unrepresentableTime => exact h.unsent slot _ _ hJ may (by simp)

theorem carries (h : w.Maintains ttl J E) :
    w.transcribed.Carries ttl (fun t => J t.session t.world.past)
      (fun e t => E e t.session t.world.past) where
  readOne hJ := (h.lands_readOne hJ).ends
  shoot slot hJ := (h.lands_shoot slot hJ).ends
  awaitReadable hJ := (lands_perform (fun a => h.awaited a hJ) fun e _ _ failed =>
    h.unawaited e hJ (.inr (.inr (.inl ⟨_, _, _, failed⟩)))).ends
  receiveReply hJ := (lands_perform (fun a => h.answered a hJ) fun e _ _ failed =>
    h.unanswered e hJ (.inr (.inr (.inr (.inl ⟨_, _, failed⟩))))).ends
  publish e engine hJ := h.published e engine hJ
  clear slot hJ := h.cleared slot hJ
  advance hJ := h.advanced hJ

theorem simulates (h : w.Maintains ttl J E) :
    w.transcribed.Simulates (Along J) (AlongFailure E) w.transcribed ttl :=
  h.carries.simulates

theorem lands_sendProbe (h : w.Maintains ttl J E) (hJ : J t.session t.world.past) :
    Lands J E (w.transcribed.sendProbe ttl t) :=
  (h.simulates.sendProbe ⟨rfl, hJ⟩).lands

theorem lands_trace (h : ∀ ttl ∈ t.session.ttls, w.Maintains ttl J E)
    (set : ∀ ttl ∈ t.session.ttls, w.MaintainsSetTtl ttl J E)
    (hJ : J t.session t.world.past) : Lands J E (w.transcribed.trace t) := by
  refine (World.Carries.trace (fun ttl m => (h ttl m).carries) ?_ hJ).lands
  intro ttl m t hJ
  exact (lands_perform (fun _ => (set ttl m).set hJ) fun e _ _ failed =>
    (set ttl m).unset e hJ (.inl ⟨_, _, _, failed⟩)).ends

end World.Maintains

end

end HopTrace
