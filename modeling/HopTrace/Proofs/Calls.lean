import HopTrace.Proofs.Decoding
import HopTrace.Proofs.Evaluation
import HopTrace.Proofs.Invariant

/-!
# The calls of the probe engine

A trace calls the probe engine again and again, and does little else between two calls: it
sets hop limits and gives up ttls. Here the calls are numbered and told apart by what they
add to the transcript.

A call has stages. Until a datagram is accepted it looks after its slot, which it clears
after each refusal and the drain that follows. From then on the cursor has moved and the
slot is left alone. `World.MaintainsCall` has an invariant for each stage, where
`World.Maintains` has one for all.
-/
namespace HopTrace

variable {σ : Type}

/-- What the engine does once a probe is on its way keeps `L`, and leads to `E` if it fails. -/
structure World.MaintainsCollect (w : World σ) (ttl : UInt8) (L : Session → List Exchange → Prop)
    (E : Failure → Session → List Exchange → Prop) : Prop where
  awaited : ∀ {s past} readable, L s past → L s (.awaitReadable replyWait (.ok readable) :: past)
  unawaited : ∀ {s past} e, L s past → E e s (.awaitReadable replyWait (.error e) :: past)
  answered : ∀ {s past} size, L s past → L s (.receiveReply (.ok size) :: past)
  unanswered : ∀ {s past} e, L s past → E e s (.receiveReply (.error e) :: past)
  collected : w.MaintainsDrain ttl L E
  published : ∀ {s past}, ∀ e ∈ [Event.replyReceived ttl, .sendFailed ttl],
    L s past → L s (.event e :: past)

/-- What a call of the probe engine for `slot` keeps: `J` before each attempt to send, `K`
once that was refused, and `L` when the cursor has moved on. It leads to `E` if it fails. -/
structure World.MaintainsCall (w : World σ) (ttl : UInt8) (slot : Slot)
    (J K L : Session → List Exchange → Prop) (E : Failure → Session → List Exchange → Prop) :
    Prop extends w.MaintainsCollect ttl L E where
  accepted : ∀ {s past} now, J s past →
    L (s.record slot ttl now).advance (.send ((s.record slot ttl now).payload ttl now)
      (slot.port s.basePort) (.ok ()) :: .now now :: past)
  refused : ∀ {s past} now cause, J s past →
    K (s.record slot ttl now) (.send ((s.record slot ttl now).payload ttl now)
      (slot.port s.basePort) (.error (.probeFailed cause)) :: .now now :: past)
  unsent : ∀ {s past} now e, J s past → (∀ cause, e ≠ .probeFailed cause) →
    E e (s.record slot ttl now) (.send ((s.record slot ttl now).payload ttl now)
      (slot.port s.basePort) (.error e) :: .now now :: past)
  explained : w.MaintainsDrain ttl K E
  cleared : ∀ {s past}, K s past → J (s.clear slot) past
  abandoned : ∀ {s past}, J s past → L s.advance past

section
variable (J K L : Session → List Exchange → Prop)
variable (E : Failure → Session → List Exchange → Prop)

/-- Where an attempt to send ends. -/
def LandsShot : EStateM.Result Failure (Tracing (Transcript σ)) Bool → Prop
  | .ok true t => L t.session.advance t.world.past
  | .ok false t => K t.session t.world.past
  | .error e t => E e t.session t.world.past

/-- Where all the attempts to send end. -/
def LandsLaunch : EStateM.Result Failure (Tracing (Transcript σ)) Launch → Prop
  | .ok .sent t => L t.session.advance t.world.past
  | .ok _ t => J t.session t.world.past
  | .error e t => E e t.session t.world.past

end

theorem World.MaintainsDrain.lands_drained {w : World σ} {ttl : UInt8}
    {J : Session → List Exchange → Prop} {E : Failure → Session → List Exchange → Prop}
    {t : Tracing (Transcript σ)} (h : w.MaintainsDrain ttl J E) (hJ : J t.session t.world.past)
    {r : EStateM.Result Failure (Tracing (Transcript σ)) DrainOutcome}
    (drained : w.transcribed.drain ttl t = r) : Lands J E r := drained ▸ h.lands_drain hJ

theorem World.MaintainsDrain.and {w : World σ} {ttl : UInt8}
    {J J' : Session → List Exchange → Prop} {E E' : Failure → Session → List Exchange → Prop}
    (h : w.MaintainsDrain ttl J E) (h' : w.MaintainsDrain ttl J' E') :
    w.MaintainsDrain ttl (fun s past => J s past ∧ J' s past) E where
  unread e both may := h.unread e both.1 may
  emptied both := ⟨h.emptied both.1, h'.emptied both.2⟩
  undecoded n e both decoded := h.undecoded n e both.1 decoded
  uninformed n both decoded := ⟨h.uninformed n both.1 decoded, h'.uninformed n both.2 decoded⟩
  decoded n hop responder names both decoded asked :=
    ⟨h.decoded n hop responder names both.1 decoded asked,
      h'.decoded n hop responder names both.2 decoded asked⟩

namespace World.MaintainsCollect
variable {w : World σ} {ttl : UInt8} {L : Session → List Exchange → Prop}
variable {E : Failure → Session → List Exchange → Prop} {t : Tracing (Transcript σ)}

theorem lands_await (h : w.MaintainsCollect ttl L E) (hL : L t.session t.world.past)
    {r : EStateM.Result Failure (Tracing (Transcript σ)) Bool}
    (awaited : Step.world (w.transcribed.awaitReadable replyWait) t = r) : Lands L E r := by
  subst awaited
  exact lands_perform (fun readable => h.awaited readable hL) fun e _ _ _ => h.unawaited e hL

theorem lands_answer (h : w.MaintainsCollect ttl L E) (hL : L t.session t.world.past)
    {r : EStateM.Result Failure (Tracing (Transcript σ)) (Option Nat)}
    (answered : Step.world w.transcribed.receiveReply t = r) : Lands L E r := by
  subst answered
  exact lands_perform (fun size => h.answered size hL) fun e _ _ _ => h.unanswered e hL

theorem lands_collect (h : w.MaintainsCollect ttl L E)
    {r : EStateM.Result Failure (Tracing (Transcript σ)) ProbeOutcome}
    (collected : CollectExec w.transcribed ttl t r) (hL : L t.session t.world.past) :
    Lands L E r := by
  cases collected with
  | unawaited awaited => exact h.lands_await hL awaited
  | unanswered awaited answered => exact h.lands_answer (h.lands_await hL awaited) answered
  | replied awaited answered =>
    have landed := h.lands_answer (h.lands_await hL awaited) answered
    exact h.published _ (by simp) landed
  | undrained awaited answered drained =>
    have landed := h.lands_answer (h.lands_await hL awaited) answered
    exact h.collected.lands_drained landed drained
  | drained awaited answered drained =>
    have landed := h.lands_answer (h.lands_await hL awaited) answered
    exact h.collected.lands_drained landed drained

end World.MaintainsCollect

namespace World.MaintainsCall
variable {w : World σ} {ttl : UInt8} {slot : Slot} {J K L : Session → List Exchange → Prop}
variable {E : Failure → Session → List Exchange → Prop} {t : Tracing (Transcript σ)}

theorem lands_shoot (h : w.MaintainsCall ttl slot J K L E) (hJ : J t.session t.world.past)
    {r : EStateM.Result Failure (Tracing (Transcript σ)) Bool}
    (shot : w.transcribed.shoot ttl slot t = r) : LandsShot K L E r := by
  rw [World.shoot_eq, World.transcribed_trySend] at shot
  subst shot
  rcases w.send _ _ _ with ⟨⟨⟩, s⟩ | ⟨e, s⟩
  · exact h.accepted _ hJ
  · cases e with
    | probeFailed cause => exact h.refused _ cause hJ
    | io cause => exact h.unsent _ _ hJ (by simp)
    | unrepresentableTime => exact h.unsent _ _ hJ (by simp)

theorem lands_launch (h : w.MaintainsCall ttl slot J K L E) {n : Nat}
    {r : EStateM.Result Failure (Tracing (Transcript σ)) Launch}
    (launched : LaunchExec w.transcribed ttl slot n t r) (hJ : J t.session t.world.past) :
    LandsLaunch J L E r := by
  induction launched with
  | refused => exact hJ
  | failed shot => exact h.lands_shoot hJ shot
  | sent shot => exact h.lands_shoot hJ shot
  | undrained shot drained =>
    have refused := h.lands_shoot hJ shot
    exact h.explained.lands_drained refused drained
  | ended shot drained _ =>
    have refused := h.lands_shoot hJ shot
    exact h.cleared (h.explained.lands_drained refused drained)
  | retried shot drained _ _ ih =>
    have refused := h.lands_shoot hJ shot
    exact ih (h.cleared (h.explained.lands_drained refused drained))

theorem lands_sendProbe (h : w.MaintainsCall ttl t.session.history.cursor J K L E)
    (hJ : J t.session t.world.past) : Lands L E (w.transcribed.sendProbe ttl t) := by
  have launch := h.lands_launch (w.transcribed.launch_exec ttl _ maxSendAttempts t) hJ
  have exec := w.transcribed.sendProbe_exec ttl t
  generalize w.transcribed.sendProbe ttl t = r at exec ⊢
  cases exec with
  | failed launched =>
    rw [launched] at launch
    exact launch
  | sent launched collected =>
    rw [launched] at launch
    exact h.lands_collect collected launch
  | ended launched =>
    rw [launched] at launch
    exact h.abandoned launch
  | refused launched =>
    rw [launched] at launch
    exact h.published _ (by simp) (h.abandoned launch)

end World.MaintainsCall

/-- Hop limits are set and ttls given up, and nothing else happens. -/
inductive Pause (w : World σ) : Tracing σ → Tracing σ → Prop
  | none {t} : Pause w t t
  | set {t t'} (ttl) : Pause w t t' → Pause w t (finalState (Step.world (w.setTtl ttl) t'))
  | givenUp {t t'} (ttl) : Pause w t t' →
      Pause w t { t' with world := w.publish (.noReply ttl) t'.world }

/-- Calls of the probe engine one after the other with pauses around them. A call that
fails is the last. -/
inductive Calls (w : World σ) : Tracing σ → List (Attempt σ) → Option Failure → Tracing σ → Prop
  | paused {t t' failure} : Pause w t t' → Calls w t [] failure t'
  | failed {t a e t'} : Pause w t a.start → a.result w = .error e t' →
      Calls w t [a] (some e) t'
  | answered {t a outcome u as failure t'} : Pause w t a.start → a.result w = .ok outcome u →
      Calls w u as failure t' → Calls w t (a :: as) failure t'

section Calls
variable {w : World σ} {t u t' : Tracing σ}

theorem Pause.of_setTtl {ttl : UInt8} {r : EStateM.Result Failure (Tracing σ) Unit}
    (set : Step.world (w.setTtl ttl) t = r) : Pause w t (finalState r) := set ▸ .set ttl .none

theorem Pause.trans (h : Pause w t u) (h' : Pause w u t') : Pause w t t' := by
  induction h' with
  | none => exact h
  | set ttl _ ih => exact .set ttl ih
  | givenUp ttl _ ih => exact .givenUp ttl ih

theorem Calls.pause {as : List (Attempt σ)} {failure : Option Failure} (h : Pause w t u)
    (h' : Calls w u as failure t') : Calls w t as failure t' := by
  cases h' with
  | paused rest => exact .paused (h.trans rest)
  | failed rest result => exact .failed (h.trans rest) result
  | answered rest result next => exact .answered (h.trans rest) result next

theorem Calls.append {as bs : List (Attempt σ)} {first failure : Option Failure}
    (h : Calls w t as first u) (going : first = none) (h' : Calls w u bs failure t') :
    Calls w t (as ++ bs) failure t' := by
  induction h with
  | paused pause => exact h'.pause pause
  | failed pause result => cases going
  | answered pause result _ ih => exact .answered pause result (ih going h')

theorem TtlExec.calls {ttl : UInt8} {left : Nat} {as : List (Attempt σ)}
    {r : EStateM.Result Failure (Tracing σ) (Option Completion)} (h : TtlExec w ttl left t as r) :
    Calls w t as (failure? r) (finalState r) := by
  induction h with
  | unanswered => exact .paused (.givenUp ttl .none)
  | failed sent => exact .failed .none sent
  | restarted sent _ _ ih => exact .answered .none sent ih
  | ended sent _ _ => exact .answered .none sent (.paused .none)
  | advanced sent _ => exact .answered .none sent (.paused .none)
  | repeated sent _ _ _ _ ih => exact .answered .none sent ih

theorem PathExec.calls {ttls : List UInt8} {walk : List (List (Attempt σ))}
    {r : EStateM.Result Failure (Tracing σ) Completion} (h : PathExec w ttls t walk r) :
    Calls w t walk.flatten (failure? r) (finalState r) := by
  induction h with
  | spent => exact .paused .none
  | unset set => exact .paused (.of_setTtl set)
  | failed set probed =>
    rw [List.flatten_cons, List.flatten_nil, List.append_nil]
    exact probed.calls.pause (.of_setTtl set)
  | ended set probed =>
    rw [List.flatten_cons, List.flatten_nil, List.append_nil]
    exact probed.calls.pause (.of_setTtl set)
  | advanced set probed _ ih =>
    rw [List.flatten_cons]
    exact (probed.calls.pause (.of_setTtl set)).append rfl ih

theorem TraceExec.calls {walk : List (List (Attempt σ))}
    {r : EStateM.Result Failure (Tracing σ) Summary} (h : TraceExec w t walk r) :
    Calls w t walk.flatten (failure? r) (finalState r) := by
  cases h with
  | failed path => exact path.calls
  | finished path => exact path.calls

end Calls

namespace Session
variable {s s' : Session}

/-- What the port of the next probe depends on. -/
def aim (s : Session) : UInt16 × Slot := (s.basePort, s.history.cursor)

@[simp] theorem aim_record (s : Session) (slot : Slot) (ttl : UInt8) (now : Instant) :
    (s.record slot ttl now).aim = s.aim := rfl

@[simp] theorem aim_clear (s : Session) (slot : Slot) : (s.clear slot).aim = s.aim := rfl

@[simp] theorem aim_advance (s : Session) : s.advance.aim = (s.basePort, s.history.cursor.next) :=
  rfl

@[simp] theorem aim_taken (s : Session) (n : Notification) : (s.taken n).aim = s.aim := by
  unfold taken takeRecord
  split <;> rfl

@[simp] theorem aim_learn (s : Session) (status : HopStatus) (hops : UInt8)
    (backHops : Option UInt8) : (s.learn status hops backHops).aim = s.aim := by
  unfold learn clampMtu setHops
  split
  · split <;> rfl
  · split <;> rfl
  all_goals rfl

/-- Decoding has no influence on it, whether it succeeds or not. -/
theorem aim_decode {ttl : UInt8} {n : Notification}
    {r : EStateM.Result Failure Session (Option Hop)} (decoded : s.decode ttl n = r) :
    (finalState r).aim = s.aim := by
  cases r with
  | error e s' =>
    obtain ⟨-, rfl⟩ := decode_failed decoded
    exact s.aim_taken n
  | ok found s' =>
    cases found with
    | none =>
      obtain ⟨-, -, rfl⟩ := decode_uninformed decoded
      exact s.aim_taken n
    | some hop =>
      obtain ⟨p, e, -, -, -, rfl⟩ := decode_hop decoded
      exact (aim_learn _ _ _ _).trans (s.aim_taken n)

end Session

/-- A property of the session and the transcript that a drain has no influence on. -/
def Steady (J : Session → List Exchange → Prop) : Prop :=
  ∀ {s s' : Session} {past : List Exchange} (new : List Exchange), J s past → s'.aim = s.aim →
    (∀ x ∈ new, x.isSend = false) → J s' (new ++ past)

theorem Steady.exchanged {J : Session → List Exchange → Prop} (h : Steady J) {s s' : Session}
    {past : List Exchange} {x : Exchange} (hJ : J s past) (aim : s'.aim = s.aim)
    (other : x.isSend = false) : J s' (x :: past) :=
  h [x] hJ aim (by simpa using other)

theorem maintainsDrain_of_steady {w : World σ} {ttl : UInt8}
    {J : Session → List Exchange → Prop} {E : Failure → Session → List Exchange → Prop}
    (steady : Steady J) (fails : ∀ {s past} e, J s past → E e s past) :
    w.MaintainsDrain ttl J E where
  unread e h _ := fails e (steady.exchanged h rfl rfl)
  emptied h := steady.exchanged h rfl rfl
  undecoded n e h decoded := fails e (steady.exchanged h (Session.aim_decode decoded) rfl)
  uninformed n h decoded := by
    have read := steady.exchanged h (Session.aim_decode decoded)
      (x := .receiveNotification (.ok (some n))) rfl
    exact steady.exchanged read rfl rfl
  decoded n hop responder names h decoded asked := by
    have quiet : ∀ x ∈ names, x.isSend = false := by
      intro x m
      obtain ⟨a, name, rfl⟩ := asked x m
      rfl
    have read := steady.exchanged h rfl (x := .receiveNotification (.ok (some n))) rfl
    exact steady.exchanged (steady names read rfl quiet) (Session.aim_decode decoded) rfl

theorem maintainsCollect_of_steady {w : World σ} {ttl : UInt8}
    {L : Session → List Exchange → Prop} {E : Failure → Session → List Exchange → Prop}
    (steady : Steady L) (fails : ∀ {s past} e, L s past → E e s past) :
    w.MaintainsCollect ttl L E where
  awaited _ h := steady.exchanged h rfl rfl
  unawaited e h := fails e (steady.exchanged h rfl rfl)
  answered _ h := steady.exchanged h rfl rfl
  unanswered e h := fails e (steady.exchanged h rfl rfl)
  collected := maintainsDrain_of_steady steady fails
  published e _ h := steady.exchanged h (x := .event e) rfl rfl

/-- No datagram has been accepted since `start`. -/
def Undelivered (start past : List Exchange) : Prop :=
  ∀ payload port before, .send payload port (.ok ()) :: before <:+ past → ¬start <:+ before

/-- A datagram of the call that began at `start`, sent after `before`. The clock was read for
it, and none before it was accepted. -/
structure SentInCall (ttl : UInt8) (port : UInt16) (start : List Exchange) (payload : Payload)
    (port' : UInt16) (before : List Exchange) : Prop where
  port : port' = port
  reading : ∃ now earlier, before = .now now :: earlier ∧ start <:+ earlier ∧
    payload.header = .ofSend ttl now
  first : Undelivered start before

/-- What a call that began at `start` has added to the transcript. -/
structure CallSoFar (ttl : UInt8) (port : UInt16) (start past : List Exchange) : Prop where
  since : start <:+ past
  sends : ∀ payload port' answer before, start <:+ before →
    .send payload port' answer :: before <:+ past →
    SentInCall ttl port start payload port' before

theorem not_suffix_of_cons_suffix {ι : Type} {x : ι} {before past : List ι}
    (here : x :: before <:+ past) : ¬past <:+ before := by
  intro back
  have forth := here.length_le
  have back := back.length_le
  rw [List.length_cons] at forth
  omega

theorem not_cons_suffix_nil {ι : Type} {x : ι} {before : List ι} : ¬x :: before <:+ [] := by
  intro here
  cases List.eq_nil_of_suffix_nil here

/-- An entry of a record is the latest, or it was there before. -/
theorem cons_suffix_cases {ι : Type} {x y : ι} {before past : List ι}
    (here : x :: before <:+ y :: past) : (x = y ∧ before = past) ∨ x :: before <:+ past := by
  rcases List.suffix_cons_iff.mp here with same | earlier
  · exact .inl (List.cons.inj same)
  · exact .inr earlier

theorem suffix_of_ne {ι : Type} {x y : ι} {before past : List ι} (other : x ≠ y)
    (here : x :: before <:+ y :: past) : x :: before <:+ past := by
  rcases cons_suffix_cases here with ⟨same, -⟩ | earlier
  · exact absurd same other
  · exact earlier

theorem suffix_cases {ι : Type} {x : ι} {start before past : List ι} (since : start <:+ past)
    (here : x :: before <:+ past) : x :: before <:+ start ∨ start <:+ before := by
  rcases List.suffix_or_suffix_of_suffix here since with earlier | later
  · exact .inl earlier
  · rcases List.suffix_cons_iff.mp later with same | later
    · exact .inl (same ▸ List.suffix_rfl)
    · exact .inr later

/-- An entry of a longer record is among the new ones, or it was there before. -/
theorem append_suffix_cases {ι : Type} {x : ι} {new before past : List ι}
    (here : x :: before <:+ new ++ past) :
    (∃ later earlier, new = later ++ x :: earlier ∧ before = earlier ++ past) ∨
      x :: before <:+ past := by
  induction new with
  | nil => exact .inr here
  | cons y new ih =>
    rcases cons_suffix_cases here with ⟨rfl, rest⟩ | earlier
    · exact .inl ⟨[], new, rfl, rest⟩
    · rcases ih earlier with ⟨later, between, rfl, rest⟩ | before
      · exact .inl ⟨y :: later, between, rfl, rest⟩
      · exact .inr before

theorem mem_or_suffix {ι : Type} {x : ι} {new before past : List ι}
    (here : x :: before <:+ new ++ past) : x ∈ new ∨ x :: before <:+ past := by
  rcases append_suffix_cases here with ⟨later, earlier, rfl, -⟩ | earlier
  · exact .inl (List.mem_append_right later List.mem_cons_self)
  · exact .inr earlier

section SoFar
variable {ttl : UInt8} {port : UInt16} {start past new : List Exchange}

theorem Undelivered.refl (start : List Exchange) : Undelivered start start :=
  fun _ _ _ here => not_suffix_of_cons_suffix here

theorem Undelivered.exchanged {x : Exchange} (h : Undelivered start past)
    (other : ∀ payload port, x ≠ .send payload port (.ok ())) : Undelivered start (x :: past) := by
  intro payload port before here
  have earlier := suffix_of_ne (other payload port).symm here
  exact h payload port before earlier

theorem Undelivered.append (h : Undelivered start past) (quiet : ∀ x ∈ new, x.isSend = false) :
    Undelivered start (new ++ past) := by
  intro payload port before here
  rcases mem_or_suffix here with made | earlier
  · cases quiet _ made
  · exact h payload port before earlier

namespace CallSoFar

theorem refl (ttl : UInt8) (port : UInt16) (start : List Exchange) :
    CallSoFar ttl port start start where
  since := List.suffix_rfl
  sends _ _ _ _ since here := absurd since (not_suffix_of_cons_suffix here)

theorem append (h : CallSoFar ttl port start past) (quiet : ∀ x ∈ new, x.isSend = false) :
    CallSoFar ttl port start (new ++ past) where
  since := h.since.trans (List.suffix_append new past)
  sends payload port' answer before since here := by
    rcases mem_or_suffix here with made | earlier
    · cases quiet _ made
    · exact h.sends payload port' answer before since earlier

theorem send (h : CallSoFar ttl port start past) (undelivered : Undelivered start past)
    {payload : Payload} {now : Instant} (header : payload.header = .ofSend ttl now)
    (answer : Except Failure Unit) :
    CallSoFar ttl port start (.send payload port answer :: .now now :: past) where
  since := h.since.trans ((List.suffix_cons _ _).trans (List.suffix_cons _ _))
  sends payload' port' answer' before since here := by
    rcases cons_suffix_cases here with ⟨same, rest⟩ | here
    · injection same with payload port _
      subst payload port rest
      exact ⟨rfl, ⟨now, past, rfl, h.since, header⟩, undelivered.exchanged (by simp)⟩
    · have earlier := suffix_of_ne Exchange.noConfusion here
      exact h.sends payload' port' answer' before since earlier

end CallSoFar

end SoFar

/-- A call before its first datagram was accepted. -/
structure Launching (ttl : UInt8) (spot : UInt16 × Slot) (start : List Exchange) (s : Session)
    (past : List Exchange) : Prop where
  aim : s.aim = spot
  soFar : CallSoFar ttl (spot.2.port spot.1) start past
  undelivered : Undelivered start past

/-- A call once the cursor has moved. -/
structure Launched (ttl : UInt8) (spot : UInt16 × Slot) (start : List Exchange) (s : Session)
    (past : List Exchange) : Prop where
  aim : s.aim = (spot.1, spot.2.next)
  soFar : CallSoFar ttl (spot.2.port spot.1) start past

section
variable {ttl : UInt8} {spot : UInt16 × Slot} {start : List Exchange}

theorem steady_launching : Steady (Launching ttl spot start) := fun _ h same quiet =>
  ⟨same.trans h.aim, h.soFar.append quiet, h.undelivered.append quiet⟩

theorem steady_launched : Steady (Launched ttl spot start) := fun _ h same quiet =>
  ⟨same.trans h.aim, h.soFar.append quiet⟩

theorem maintains_launching (w : World σ) (ttl : UInt8) (spot : UInt16 × Slot)
    (start : List Exchange) :
    w.MaintainsCall ttl spot.2 (Launching ttl spot start) (Launching ttl spot start)
      (Launched ttl spot start) (fun _ _ past => CallSoFar ttl (spot.2.port spot.1) start past) where
  toMaintainsCollect := maintainsCollect_of_steady steady_launched fun _ h => h.soFar
  accepted {s past} now h := by
    have base : s.basePort = spot.1 := congrArg Prod.fst h.aim
    have cursor : s.history.cursor = spot.2 := congrArg Prod.snd h.aim
    refine ⟨?_, ?_⟩
    · rw [Session.aim_advance, ← base, ← cursor]
      rfl
    · rw [base]
      exact h.soFar.send h.undelivered rfl (.ok ())
  refused {s past} now cause h := by
    have base : s.basePort = spot.1 := congrArg Prod.fst h.aim
    refine ⟨h.aim, ?_, ?_⟩
    · rw [base]
      exact h.soFar.send h.undelivered rfl _
    · exact (h.undelivered.exchanged (by simp)).exchanged (by simp)
  unsent {s past} now e h _ := by
    have base : s.basePort = spot.1 := congrArg Prod.fst h.aim
    rw [base]
    exact h.soFar.send h.undelivered rfl _
  explained := maintainsDrain_of_steady steady_launching fun _ h => h.soFar
  cleared h := ⟨h.aim, h.soFar, h.undelivered⟩
  abandoned {s past} h := by
    have base : s.basePort = spot.1 := congrArg Prod.fst h.aim
    have cursor : s.history.cursor = spot.2 := congrArg Prod.snd h.aim
    refine ⟨?_, h.soFar⟩
    rw [Session.aim_advance, base, cursor]

end

/-- The slot that many probes later. -/
def Slot.after (slot : Slot) (count : Nat) : Slot :=
  ⟨(slot.val + count) % historySize, Nat.mod_lt _ (by decide)⟩

theorem Slot.after_zero (slot : Slot) : slot.after 0 = slot :=
  Fin.ext (Nat.mod_eq_of_lt slot.isLt)

theorem Slot.after_next (slot : Slot) (count : Nat) :
    slot.next.after count = slot.after (count + 1) := by
  apply Fin.ext
  unfold Slot.after Slot.next historySize
  dsimp only
  omega

/-- Slots that are less than a round apart differ. -/
theorem Slot.after_ne {slot : Slot} {i j : Nat} (later : i < j) (near : j < i + historySize) :
    slot.after i ≠ slot.after j := by
  intro same
  have same : (slot.val + i) % historySize = (slot.val + j) % historySize := congrArg Fin.val same
  unfold historySize at same near
  omega

/-- The number of a port, `count` probes after the first. -/
theorem toNat_port_after (base : UInt16) (count : Nat) :
    ((Slot.first.after count).port base).toNat = (base.toNat + count % historySize) % 65536 := by
  have small : count % historySize < 64 := Nat.mod_lt _ (by decide)
  unfold Slot.port Slot.after Slot.first
  rw [UInt16.toNat_add, UInt16.toNat_ofNat']
  dsimp only
  rw [Nat.zero_add, Nat.mod_eq_of_lt (a := count % historySize) (by omega)]

namespace Attempt
variable {ι : Type} {w : World σ} {log : σ → List ι}

/-- The port of the probes that the call sends. -/
def port (a : Attempt σ) : UInt16 := a.start.session.history.cursor.port a.start.session.basePort

/-- The call adds `x` to the log, after `before`. -/
def Makes (w : World σ) (log : σ → List ι) (a : Attempt σ) (x : ι) (before : List ι) : Prop :=
  log a.start.world <:+ before ∧ x :: before <:+ log (finalState (a.result w)).world

theorem lands_result (w : World σ) (a : Attempt (Transcript σ)) :
    Lands (Launched a.ttl a.start.session.aim a.start.world.past)
      (fun _ _ past => CallSoFar a.ttl a.port a.start.world.past past)
      (a.result w.transcribed) :=
  (maintains_launching w a.ttl a.start.session.aim a.start.world.past).lands_sendProbe
    ⟨rfl, .refl _ _ _, .refl _⟩

theorem callSoFar (w : World σ) (a : Attempt (Transcript σ)) :
    CallSoFar a.ttl a.port a.start.world.past
      (finalState (a.result w.transcribed)).world.past := by
  have landed := a.lands_result w
  cases result : a.result w.transcribed with
  | ok outcome t =>
    rw [result] at landed
    exact landed.soFar
  | error e t =>
    rw [result] at landed
    exact landed

theorem sentInCall {a : Attempt (Transcript σ)} {payload : Payload} {port : UInt16}
    {answer : Except Failure Unit} {before : List Exchange}
    (made : a.Makes w.transcribed Transcript.past (.send payload port answer) before) :
    SentInCall a.ttl a.port a.start.world.past payload port before :=
  (a.callSoFar w).sends payload port answer before made.1 made.2

/-- No datagram follows in a call that has had one accepted. -/
theorem not_sent_after {a : Attempt (Transcript σ)} {payload payload' : Payload}
    {port port' : UInt16} {answer : Except Failure Unit} {before before' : List Exchange}
    (accepted : a.Makes w.transcribed Transcript.past (.send payload port (.ok ())) before)
    (made : a.Makes w.transcribed Transcript.past (.send payload' port' answer) before') :
    ¬.send payload port (.ok ()) :: before <:+ before' :=
  fun earlier => (sentInCall made).first payload port before earlier accepted.1

/-- A call that does not fail moves the cursor by one slot. -/
theorem aim_result {a : Attempt σ} {outcome : ProbeOutcome} {t : Tracing σ}
    (result : a.result w = .ok outcome t) :
    t.session.aim = (a.start.session.basePort, a.start.session.history.cursor.next) := by
  have landed := lands_result w ⟨a.ttl, a.start.unspoken⟩
  have plain : a.result w = untoldResult (Attempt.result w.transcribed ⟨a.ttl, a.start.unspoken⟩) :=
    w.sendProbe_eq a.ttl a.start
  rw [result] at plain
  generalize Attempt.result w.transcribed ⟨a.ttl, a.start.unspoken⟩ = r at landed plain
  cases r with
  | error e u => cases plain
  | ok answer u =>
    injection plain with _ state
    subst state
    exact landed.aim

end Attempt

/-- A log grows along the calls of the engine, and what it grows by in a pause is idle. -/
structure World.Logs {ι : Type} (w : World σ) (log : σ → List ι) (idle : ι → Bool) : Prop where
  call : ∀ a : Attempt σ, log a.start.world <:+ log (finalState (a.result w)).world
  set : ∀ ttl s, ∃ new, log (finalState (w.setTtl ttl s)) = new ++ log s ∧
    ∀ x ∈ new, idle x = true
  givenUp : ∀ ttl s, ∃ new, log (w.publish (.noReply ttl) s) = new ++ log s ∧
    ∀ x ∈ new, idle x = true

/-- What is exchanged between two calls. -/
def Exchange.pausing : Exchange → Bool
  | .setTtl _ _ | .event (.noReply _) => true
  | _ => false

theorem World.transcribed_logs (w : World σ) :
    w.transcribed.Logs Transcript.past Exchange.pausing where
  call a := (a.callSoFar w).since
  set ttl s := by
    unfold World.transcribed Transcript.perform
    dsimp only
    cases w.setTtl ttl s.inner with
    | ok _ _ => exact ⟨[.setTtl ttl (.ok ())], rfl, by simp [Exchange.pausing]⟩
    | error e _ => exact ⟨[.setTtl ttl (.error e)], rfl, by simp [Exchange.pausing]⟩
  givenUp ttl s := ⟨[.event (.noReply ttl)], rfl, by simp [Exchange.pausing]⟩

section Order
variable {ι : Type} {w : World σ} {log : σ → List ι} {idle : ι → Bool}
variable {t t' : Tracing σ} {as : List (Attempt σ)} {failure : Option Failure}
variable {x : ι} {before : List ι}

theorem Pause.session (h : Pause w t t') : t'.session = t.session := by
  induction h with
  | none => rfl
  | @set u ttl _ ih =>
    rw [← ih]
    exact session_world (t := u) rfl
  | givenUp ttl _ ih => exact ih

theorem world_world {α : Type} (act : EStateM Failure σ α) (t : Tracing σ) :
    (finalState (Step.world act t)).world = finalState (act t.world) := by
  unfold Step.world
  cases act t.world <;> rfl

/-- A pause adds nothing to the log that a call would. -/
theorem Pause.grows (logs : w.Logs log idle) (h : Pause w t t') :
    log t.world <:+ log t'.world ∧ ∀ x before, x :: before <:+ log t'.world →
      x :: before <:+ log t.world ∨ idle x = true := by
  have grown {past past' : List ι}
      (ih : log t.world <:+ past ∧ ∀ y before, y :: before <:+ past →
        y :: before <:+ log t.world ∨ idle y = true)
      (growth : ∃ new, past' = new ++ past ∧ ∀ x ∈ new, idle x = true) :
      log t.world <:+ past' ∧ ∀ y before, y :: before <:+ past' →
        y :: before <:+ log t.world ∨ idle y = true := by
    obtain ⟨new, rfl, quiet⟩ := growth
    refine ⟨ih.1.trans (List.suffix_append new past), ?_⟩
    intro y before here
    rcases mem_or_suffix here with made | earlier
    · exact .inr (quiet y made)
    · exact ih.2 y before earlier
  induction h with
  | none => exact ⟨List.suffix_rfl, fun _ _ here => .inl here⟩
  | @set u ttl _ ih =>
    rw [world_world]
    exact grown ih (logs.set ttl u.world)
  | @givenUp u ttl _ ih => exact grown ih (logs.givenUp ttl u.world)

/-- The log grows along the calls. -/
theorem Calls.suffix (logs : w.Logs log idle) (h : Calls w t as failure t') :
    log t.world <:+ log t'.world := by
  induction h with
  | paused pause => exact (pause.grows logs).1
  | @failed _ a _ _ pause result =>
    have call := logs.call a
    rw [result] at call
    exact (pause.grows logs).1.trans call
  | @answered _ a _ _ _ _ _ pause result _ ih =>
    have call := logs.call a
    rw [result] at call
    exact ((pause.grows logs).1.trans call).trans ih

/-- The first call starts where it is told to, and every call uses the slot that follows. -/
theorem Calls.aim (h : Calls w t as failure t') {i : Nat} {a : Attempt σ}
    (called : as[i]? = some a) :
    a.start.session.aim = (t.session.basePort, t.session.history.cursor.after i) := by
  induction h generalizing i with
  | paused _ => cases called
  | failed pause result =>
    cases i with
    | zero =>
      injection called with called
      rw [← called, pause.session, Slot.after_zero]
      rfl
    | succ i => cases called
  | @answered t b outcome u _ _ _ pause result _ ih =>
    cases i with
    | zero =>
      injection called with called
      rw [← called, pause.session, Slot.after_zero]
      rfl
    | succ i =>
      have moved := Attempt.aim_result result
      rw [pause.session] at moved
      have base : u.session.basePort = t.session.basePort := congrArg Prod.fst moved
      have cursor : u.session.history.cursor = t.session.history.cursor.next :=
        congrArg Prod.snd moved
      rw [ih called, base, cursor, Slot.after_next]

theorem Calls.port (h : Calls w t as failure t') {i : Nat} {a : Attempt σ}
    (called : as[i]? = some a) :
    a.port = (t.session.history.cursor.after i).port t.session.basePort := by
  have aim := h.aim called
  have base : a.start.session.basePort = t.session.basePort := congrArg Prod.fst aim
  have cursor : a.start.session.history.cursor = t.session.history.cursor.after i :=
    congrArg Prod.snd aim
  unfold Attempt.port
  rw [base, cursor]

/-- Calls that are less than a round apart use different ports. -/
theorem Calls.port_ne (h : Calls w t as failure t') {i j : Nat} {a b : Attempt σ}
    (first : as[i]? = some a) (second : as[j]? = some b) (later : i < j)
    (near : j < i + historySize) : a.port ≠ b.port := by
  rw [h.port first, h.port second]
  intro same
  exact Slot.after_ne later near (Slot.port_inj.mp same)

/-- What is added to the log is added by one of the calls, or between two. -/
theorem Calls.covers (logs : w.Logs log idle) (h : Calls w t as failure t')
    (here : x :: before <:+ log t'.world) :
    x :: before <:+ log t.world ∨ (∃ (i : Nat) (a : Attempt σ),
      as[i]? = some a ∧ a.Makes w log x before) ∨ idle x = true := by
  induction h with
  | paused pause => exact ((pause.grows logs).2 x before here).imp_right .inr
  | @failed _ a _ _ pause result =>
    have made : x :: before <:+ log (finalState (a.result w)).world := by
      rw [result]
      exact here
    rcases suffix_cases (logs.call a) made with earlier | during
    · exact ((pause.grows logs).2 x before earlier).imp_right .inr
    · exact .inr (.inl ⟨0, a, rfl, during, made⟩)
  | @answered _ a _ _ _ _ _ pause result _ ih =>
    rcases ih here with made | ⟨i, b, called, made⟩ | idle
    · have made : x :: before <:+ log (finalState (a.result w)).world := by
        rw [result]
        exact made
      rcases suffix_cases (logs.call a) made with earlier | during
      · exact ((pause.grows logs).2 x before earlier).imp_right .inr
      · exact .inr (.inl ⟨0, a, rfl, during, made⟩)
    · exact .inr (.inl ⟨i + 1, b, called, made⟩)
    · exact .inr (.inr idle)

/-- What happens in no pause is made by a call, if it had not happened before. -/
theorem Calls.made (logs : w.Logs log idle) (h : Calls w t as failure t')
    (fresh : ¬x :: before <:+ log t.world) (busy : idle x = false)
    (here : x :: before <:+ log t'.world) :
    ∃ (i : Nat) (a : Attempt σ), as[i]? = some a ∧ a.Makes w log x before := by
  rcases h.covers logs here with earlier | made | pausing
  · exact absurd earlier fresh
  · exact made
  · rw [busy] at pausing
    cases pausing

/-- Every call begins after the start and ends before the end. -/
theorem Calls.bounds (logs : w.Logs log idle) (h : Calls w t as failure t') {i : Nat}
    {a : Attempt σ} (called : as[i]? = some a) :
    log t.world <:+ log a.start.world ∧
      log (finalState (a.result w)).world <:+ log t'.world := by
  induction h generalizing i with
  | paused _ => cases called
  | failed pause result =>
    cases i with
    | zero =>
      injection called with called
      rw [← called, result]
      exact ⟨(pause.grows logs).1, List.suffix_rfl⟩
    | succ i => cases called
  | @answered _ b _ _ _ _ _ pause result rest ih =>
    cases i with
    | zero =>
      injection called with called
      rw [← called, result]
      exact ⟨(pause.grows logs).1, rest.suffix logs⟩
    | succ i =>
      have call := logs.call b
      rw [result] at call
      obtain ⟨start, stop⟩ := ih called
      exact ⟨((pause.grows logs).1.trans call).trans start, stop⟩

/-- A call has ended before a later one begins. -/
theorem Calls.ordered (logs : w.Logs log idle) (h : Calls w t as failure t') {i j : Nat}
    {a b : Attempt σ} (first : as[i]? = some a) (second : as[j]? = some b) (later : i < j) :
    log (finalState (a.result w)).world <:+ log b.start.world := by
  induction h generalizing i j with
  | paused _ => cases first
  | failed _ _ =>
    cases j with
    | zero => omega
    | succ j => cases second
  | @answered _ c _ _ _ _ _ _ result rest ih =>
    cases j with
    | zero => omega
    | succ j =>
      cases i with
      | zero =>
        injection first with first
        rw [← first, result]
        exact (rest.bounds logs second).1
      | succ i => exact ih first second (by omega)

/-- What was made earlier was not made by a later call. -/
theorem Calls.le_of_made (logs : w.Logs log idle) (h : Calls w t as failure t') {i j : Nat}
    {a b : Attempt σ} (first : as[i]? = some a) (second : as[j]? = some b) {y : ι}
    {between : List ι} (made : a.Makes w log x before) (followed : b.Makes w log y between)
    (earlier : x :: before <:+ between) : i ≤ j := by
  apply Nat.le_of_not_lt
  intro later
  have ended := h.ordered logs second first later
  have loop : between <:+ before :=
    ((List.suffix_cons y between).trans (followed.2.trans ended)).trans made.1
  exact not_suffix_of_cons_suffix earlier loop

end Order

/-- What every call keeps and no pause harms holds at the end if it holds at the start. -/
theorem Calls.keeps {w : World σ} {t t' : Tracing (Transcript σ)}
    {as : List (Attempt (Transcript σ))} {failure : Option Failure}
    {J : Session → List Exchange → Prop} (h : Calls w.transcribed t as failure t')
    (call : ∀ a : Attempt (Transcript σ), J a.start.session a.start.world.past →
      Lands J (fun _ => J) (a.result w.transcribed))
    (pause : ∀ x s past, x.pausing = true → J s past → J s (x :: past))
    (hJ : J t.session t.world.past) : J t'.session t'.world.past := by
  have pauses {t t' : Tracing (Transcript σ)} (h : Pause w.transcribed t t')
      (hJ : J t.session t.world.past) : J t'.session t'.world.past := by
    induction h with
    | none => exact hJ
    | @set u ttl _ ih =>
      obtain ⟨answer, past⟩ := past_perform (t := u)
        (r := Step.world (w.transcribed.setTtl ttl) u) rfl
      have session : (finalState (Step.world (w.transcribed.setTtl ttl) u)).session = u.session :=
        session_world rfl
      rw [past, session]
      exact pause _ _ _ rfl ih
    | givenUp ttl _ ih => exact pause _ _ _ rfl ih
  induction h with
  | paused rest => exact pauses rest hJ
  | failed rest result =>
    have landed := call _ (pauses rest hJ)
    rw [result] at landed
    exact landed
  | answered rest result _ ih =>
    have landed := call _ (pauses rest hJ)
    rw [result] at landed
    exact ih landed

end HopTrace
