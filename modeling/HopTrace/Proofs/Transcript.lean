import HopTrace.Proofs.Simulation

/-!
# Transcripts

A transcript is the whole dialogue of a trace with its surroundings: every reading of the
clock, every call of the network and every lookup of a name with the answer it got, and
every event. A journal (see `HopTrace.Journal`) holds only what was asked. The latest
exchange stands first, so a transcript grows by `cons`.

A transcribed world answers as the world it is made from. What holds of its transcripts
therefore holds of the dialogue of every world.
-/
namespace HopTrace

instance decidableEqExcept {ε α : Type} [DecidableEq ε] [DecidableEq α] :
    DecidableEq (Except ε α)
  | .ok a, .ok b => decidable_of_iff (a = b) (by simp)
  | .error e, .error f => decidable_of_iff (e = f) (by simp)
  | .ok _, .error _ => isFalse (by simp)
  | .error _, .ok _ => isFalse (by simp)

inductive Exchange where
  | now (reading : Instant)
  | setTtl (ttl : UInt8) (answer : Except Failure Unit)
  | send (payload : Payload) (port : UInt16) (answer : Except Failure Unit)
  | awaitReadable (limit : Span) (answer : Except Failure Bool)
  | receiveReply (answer : Except Failure (Option Nat))
  | receiveNotification (answer : Except Failure (Option Notification))
  | resolve (address : IpAddress) (name : Option String)
  | event (event : Event)
  deriving DecidableEq

def Exchange.isSend : Exchange → Bool
  | .send _ _ _ => true
  | _ => false

/-- A state and the exchanges that led to it, the latest first. -/
structure Transcript (σ : Type) where
  past : List Exchange
  inner : σ

namespace Transcript
variable {σ α : Type}

/-- An operation on the inner state, written down with its answer. -/
def perform (mark : Except Failure α → Exchange) (act : EStateM Failure σ α) :
    EStateM Failure (Transcript σ) α := fun x =>
  match act x.inner with
  | .ok a s => .ok a ⟨mark (.ok a) :: x.past, s⟩
  | .error e s => .error e ⟨mark (.error e) :: x.past, s⟩

theorem perform_eq_ok {mark : Except Failure α → Exchange} {act : EStateM Failure σ α}
    {x x' : Transcript σ} {a : α} (h : perform mark act x = .ok a x') :
    act x.inner = .ok a x'.inner := by
  unfold perform at h
  split at h
  · next answer =>
    injection h with h₁ h₂
    subst h₁ h₂
    exact answer
  · injection h

theorem perform_ok {mark : Except Failure α → Exchange} {act : EStateM Failure σ α}
    {x : Transcript σ} {a : α} {s : σ} (h : act x.inner = .ok a s) :
    perform mark act x = .ok a ⟨mark (.ok a) :: x.past, s⟩ := by
  unfold perform
  rw [h]

end Transcript

variable {σ : Type}

def World.transcribed (w : World σ) : World (Transcript σ) where
  now x := ((w.now x.inner).1, ⟨.now (w.now x.inner).1 :: x.past, (w.now x.inner).2⟩)
  setTtl ttl := Transcript.perform (.setTtl ttl) (w.setTtl ttl)
  send payload port := Transcript.perform (.send payload port) (w.send payload port)
  awaitReadable limit := Transcript.perform (.awaitReadable limit) (w.awaitReadable limit)
  receiveReply := Transcript.perform .receiveReply w.receiveReply
  receiveNotification := Transcript.perform .receiveNotification w.receiveNotification
  pending x := w.pending x.inner
  pending_lt h := w.pending_lt (Transcript.perform_eq_ok h)
  resolve a x := ((w.resolve a x.inner).1,
    ⟨.resolve a (w.resolve a x.inner).1 :: x.past, (w.resolve a x.inner).2⟩)
  publish e x := ⟨.event e :: x.past, w.publish e x.inner⟩
  pending_resolve_le a x := w.pending_resolve_le a x.inner
  pending_publish_le e x := w.pending_publish_le e x.inner

/-- The running trace without its transcript. -/
def Tracing.untold (t : Tracing (Transcript σ)) : Tracing σ := ⟨t.session, t.world.inner⟩

/-- The running trace with nothing told yet. -/
def Tracing.unspoken (t : Tracing σ) : Tracing (Transcript σ) := ⟨t.session, ⟨[], t.world⟩⟩

@[simp] theorem Tracing.untold_unspoken (t : Tracing σ) : t.unspoken.untold = t := rfl

/-- What a step that is run in a transcribed world exchanges with it. -/
def Step.transcript {α : Type} (m : Step (Transcript σ) α) (t : Tracing σ) : List Exchange :=
  (finalState (m t.unspoken)).world.past

theorem World.transcribed_trySend (w : World σ) (payload : Payload) (port : UInt16)
    (t : Tracing (Transcript σ)) :
    w.transcribed.trySend payload port t =
      match w.send payload port t.world.inner with
      | .ok () s => .ok true ⟨t.session, ⟨.send payload port (.ok ()) :: t.world.past, s⟩⟩
      | .error (.probeFailed c) s =>
        .ok false ⟨t.session, ⟨.send payload port (.error (.probeFailed c)) :: t.world.past, s⟩⟩
      | .error e s =>
        .error e ⟨t.session, ⟨.send payload port (.error e) :: t.world.past, s⟩⟩ := by
  unfold World.trySend
  simp only [World.transcribed, Transcript.perform]
  rcases w.send payload port t.world.inner with ⟨⟨⟩, s⟩ | ⟨_ | _ | _, s⟩ <;> rfl

/-- What one lookup of a name leaves as it is, any number of them does. -/
theorem append_resolves {β : Type} {f : List Exchange → β} {names past : List Exchange}
    (asked : ∀ x ∈ names, ∃ a name, x = Exchange.resolve a name)
    (blind : ∀ a name past, f (.resolve a name :: past) = f past) :
    f (names ++ past) = f past := by
  induction names with
  | nil => rfl
  | cons x names ih =>
    obtain ⟨a, name, rfl⟩ := asked x (by simp)
    rw [List.cons_append, blind]
    exact ih fun y m => asked y (List.mem_cons_of_mem _ m)

theorem session_world {α : Type} {act : EStateM Failure σ α} {t : Tracing σ}
    {r : EStateM.Result Failure (Tracing σ) α} (acted : Step.world act t = r) :
    (finalState r).session = t.session := by
  subst acted
  unfold Step.world
  split <;> rfl

section Perform
variable {α : Type} {mark : Except Failure α → Exchange} {act : EStateM Failure σ α}
variable {t t' : Tracing (Transcript σ)}

theorem past_perform_ok {a : α} (performed : Step.world (Transcript.perform mark act) t = .ok a t') :
    t'.world.past = mark (.ok a) :: t.world.past := by
  unfold Step.world Transcript.perform at performed
  cases acted : act t.world.inner with
  | ok b s =>
    rw [acted] at performed
    injection performed with answer state
    rw [← answer, ← state]
  | error e s =>
    rw [acted] at performed
    cases performed

theorem past_perform_error {e : Failure}
    (performed : Step.world (Transcript.perform mark act) t = .error e t') :
    t'.world.past = mark (.error e) :: t.world.past := by
  unfold Step.world Transcript.perform at performed
  cases acted : act t.world.inner with
  | ok b s =>
    rw [acted] at performed
    cases performed
  | error f s =>
    rw [acted] at performed
    injection performed with cause state
    rw [← cause, ← state]

/-- The transcript grows by what is asked and the answer to it. -/
theorem past_perform {r : EStateM.Result Failure (Tracing (Transcript σ)) α}
    (performed : Step.world (Transcript.perform mark act) t = r) :
    ∃ answer, (finalState r).world.past = mark answer :: t.world.past := by
  cases r with
  | ok a t' => exact ⟨.ok a, past_perform_ok performed⟩
  | error e t' => exact ⟨.error e, past_perform_error performed⟩

end Perform

theorem past_shoot {w : World σ} {ttl : UInt8} {slot : Slot} {t : Tracing (Transcript σ)}
    {r : EStateM.Result Failure (Tracing (Transcript σ)) Bool}
    (shot : w.transcribed.shoot ttl slot t = r) :
    ∃ now payload port answer,
      (finalState r).world.past = .send payload port answer :: .now now :: t.world.past := by
  subst shot
  rw [World.shoot_eq, World.transcribed_trySend]
  split <;> exact ⟨_, _, _, _, rfl⟩

theorem World.transcribed_name (w : World σ) (mode : AddressMode) (r : Responder)
    (x : Transcript σ) :
    ∃ names : List Exchange, (∀ e ∈ names, ∃ a name, e = .resolve a name) ∧
      w.transcribed.name mode r x =
        ((w.name mode r x.inner).1, ⟨names ++ x.past, (w.name mode r x.inner).2⟩) := by
  have nothing : ∀ e ∈ ([] : List Exchange), ∃ a name, e = .resolve a name := by simp
  unfold World.name
  split
  · split
    · split
      · exact ⟨[], nothing, rfl⟩
      · next a => exact ⟨[.resolve a (w.resolve a x.inner).1], by simp, rfl⟩
    · exact ⟨[], nothing, rfl⟩
  · exact ⟨[], nothing, rfl⟩

theorem World.transcribed_readOne (w : World σ) (ttl : UInt8) (t : Tracing (Transcript σ)) :
    w.transcribed.readOne ttl t =
      match w.receiveNotification t.world.inner with
      | .error e s => .error e ⟨t.session, ⟨.receiveNotification (.error e) :: t.world.past, s⟩⟩
      | .ok none s => .ok none ⟨t.session, ⟨.receiveNotification (.ok none) :: t.world.past, s⟩⟩
      | .ok (some n) s =>
        let read : Transcript σ := ⟨.receiveNotification (.ok (some n)) :: t.world.past, s⟩
        match t.session.decode ttl n with
        | .error e session => .error e ⟨session, read⟩
        | .ok none session => .ok (some none) ⟨session, w.transcribed.publish .noInfo read⟩
        | .ok (some hop) session =>
          let named := w.transcribed.name session.mode hop.responder read
          let hop := { hop with responder := named.1 }
          .ok (some (some hop)) ⟨session, w.transcribed.publish (.hop hop) named.2⟩ := by
  have read : w.transcribed.receiveNotification t.world =
      Transcript.perform .receiveNotification w.receiveNotification t.world := rfl
  unfold World.readOne World.decode
  rw [read]
  unfold Transcript.perform
  cases w.receiveNotification t.world.inner with
  | error e s => rfl
  | ok n s =>
    cases n with
    | none => rfl
    | some n =>
      dsimp only
      rcases t.session.decode ttl n with ⟨_ | hop, session⟩ | ⟨e, session⟩ <;> rfl

theorem Transcript.alike_perform {α : Type} (mark : Except Failure α → Exchange)
    (act : EStateM Failure σ α) {x : Transcript σ} {s : σ} (same : x.inner = s) :
    Alike (·.inner = ·) (perform mark act x) (act s) := by
  subst same
  unfold perform
  cases act x.inner with
  | ok a s => exact .ok a rfl
  | error e s => exact .error e rfl

/-- A transcribed world answers as the plain one. -/
theorem World.transcribed_matches (w : World σ) : w.transcribed.Matches (·.inner = ·) w where
  now same := same ▸ ⟨rfl, rfl⟩
  setTtl _ same := Transcript.alike_perform _ _ same
  send _ _ same := Transcript.alike_perform _ _ same
  awaitReadable _ same := Transcript.alike_perform _ _ same
  receiveReply same := Transcript.alike_perform _ _ same
  receiveNotification same := Transcript.alike_perform _ _ same
  resolve _ same := same ▸ ⟨rfl, rfl⟩
  publish _ same := same ▸ rfl

def Attempt.untold (a : Attempt (Transcript σ)) : Attempt σ := ⟨a.ttl, a.start.untold⟩

section Untold
variable {α : Type}

/-- A result without the transcript of its state. -/
def untoldResult :
    EStateM.Result Failure (Tracing (Transcript σ)) α → EStateM.Result Failure (Tracing σ) α
  | .ok a t => .ok a t.untold
  | .error e t => .error e t.untold

theorem finalState_untoldResult (r : EStateM.Result Failure (Tracing (Transcript σ)) α) :
    finalState (untoldResult r) = (finalState r).untold := by
  cases r <;> rfl

theorem Agree.untold {r : EStateM.Result Failure (Tracing (Transcript σ)) α}
    {r' : EStateM.Result Failure (Tracing σ) α}
    (h : Agree (Beside (·.inner = ·)) (BesideFailure (·.inner = ·)) (· = ·) r r') :
    r' = untoldResult r := by
  cases r with
  | ok a t =>
    obtain ⟨b, ⟨session, world⟩, rfl, rfl, rfl, rfl⟩ := h.of_ok
    rfl
  | error e t =>
    obtain ⟨f, ⟨session, world⟩, rfl, rfl, rfl, rfl⟩ := h.of_error
    rfl

/-- A drain, a probe and a trace end as they do when they are transcribed from the start. -/
theorem World.drain_eq (w : World σ) (ttl : UInt8) (t : Tracing σ) :
    w.drain ttl t = untoldResult (w.transcribed.drain ttl t.unspoken) :=
  ((w.transcribed_matches.simulates ttl).drain (t := t.unspoken) ⟨rfl, rfl⟩).untold

theorem World.sendProbe_eq (w : World σ) (ttl : UInt8) (t : Tracing σ) :
    w.sendProbe ttl t = untoldResult (w.transcribed.sendProbe ttl t.unspoken) :=
  ((w.transcribed_matches.simulates ttl).sendProbe (t := t.unspoken) ⟨rfl, rfl⟩).untold

theorem World.trace_eq (w : World σ) (t : Tracing σ) :
    w.trace t = untoldResult (w.transcribed.trace t.unspoken) :=
  (w.transcribed_matches.trace (t := t.unspoken) ⟨rfl, rfl⟩).untold

variable {w : World σ} {ttl : UInt8} {t : Tracing (Transcript σ)}

theorem sendProbe_untold {r : EStateM.Result Failure (Tracing (Transcript σ)) ProbeOutcome}
    (sent : w.transcribed.sendProbe ttl t = r) : w.sendProbe ttl t.untold = untoldResult r :=
  sent ▸ ((w.transcribed_matches.simulates ttl).sendProbe ⟨rfl, rfl⟩).untold

theorem setTtl_untold {r : EStateM.Result Failure (Tracing (Transcript σ)) Unit}
    (set : Step.world (w.transcribed.setTtl ttl) t = r) :
    Step.world (w.setTtl ttl) t.untold = untoldResult r := by
  have start : Beside (·.inner = ·) t t.untold := ⟨rfl, rfl⟩
  have alike := w.transcribed_matches.setTtl ttl start.2
  exact set ▸ (World.Matches.agree_world start alike).untold

theorem TtlExec.untold {left : Nat} {as : List (Attempt (Transcript σ))}
    {r : EStateM.Result Failure (Tracing (Transcript σ)) (Option Completion)}
    (h : TtlExec w.transcribed ttl left t as r) :
    TtlExec w ttl left t.untold (as.map Attempt.untold) (untoldResult r) := by
  induction h with
  | unanswered => exact .unanswered
  | failed sent => exact .failed (sendProbe_untold sent)
  | restarted sent changed _ ih => exact .restarted (sendProbe_untold sent) changed ih
  | ended sent same ended => exact .ended (sendProbe_untold sent) same ended
  | advanced sent same => exact .advanced (sendProbe_untold sent) same
  | repeated sent same going stuck _ ih =>
    exact .repeated (sendProbe_untold sent) same going stuck ih

theorem PathExec.untold {ttls : List UInt8} {walk : List (List (Attempt (Transcript σ)))}
    {r : EStateM.Result Failure (Tracing (Transcript σ)) Completion}
    (h : PathExec w.transcribed ttls t walk r) :
    PathExec w ttls t.untold (walk.map (·.map Attempt.untold)) (untoldResult r) := by
  induction h with
  | spent => exact .spent
  | unset set => exact .unset (setTtl_untold set)
  | failed set probed => exact .failed (setTtl_untold set) probed.untold
  | ended set probed => exact .ended (setTtl_untold set) probed.untold
  | advanced set probed _ ih => exact .advanced (setTtl_untold set) probed.untold ih

theorem TraceExec.untold {walk : List (List (Attempt (Transcript σ)))}
    {r : EStateM.Result Failure (Tracing (Transcript σ)) Summary}
    (h : TraceExec w.transcribed t walk r) :
    TraceExec w t.untold (walk.map (·.map Attempt.untold)) (untoldResult r) := by
  cases h with
  | failed h => exact .failed h.untold
  | @finished completion t' h =>
    have plain : PathExec w t.untold.session.ttls t.untold _ (.ok completion t'.untold) := h.untold
    exact .finished plain

end Untold

end HopTrace
