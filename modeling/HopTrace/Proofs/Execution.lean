import HopTrace.Trace

/-!
# Executions of a trace

The loops of a trace end by measures that nothing but their definitions should have to
look at. This module describes each loop a second time, as a closed derivation with one
constructor for each way a round can go: the rounds of a drain, the attempts at one ttl,
the ttls of a path. A derivation is finite by nature and mentions no measure. Every loop
has one, from every state, and it has no other.

An attempt is one call of the probe engine. The derivation of a trace keeps the attempts
of each ttl in the order in which they were made.
-/
namespace HopTrace

variable {σ : Type}

/-- One round of a drain: the queue is empty, or a notification is read, decoded and
published, with or without an extended error. -/
def World.readOne (w : World σ) (ttl : UInt8) : Step σ (Option (Option Hop)) := fun t =>
  match w.receiveNotification t.world with
  | .error e world => .error e { t with world }
  | .ok none world => .ok none { t with world }
  | .ok (some n) world =>
    match w.decode ttl n { t with world } with
    | .error e t' => .error e t'
    | .ok none t' => .ok (some none) { t' with world := w.publish .noInfo t'.world }
    | .ok (some hop) t' =>
      .ok (some (some hop)) { t' with world := w.publish (.hop hop) t'.world }

/-- What no lookup of a name changes, naming a responder does not change. -/
theorem World.name_preserves (w : World σ) (P : σ → Prop)
    (resolve : ∀ {s} a, P s → P (w.resolve a s).2) {mode : AddressMode} {r : Responder} {s : σ}
    (hP : P s) : P (w.name mode r s).2 := by
  unfold World.name
  split
  · split
    · split
      · exact hP
      · exact resolve _ hP
    · exact hP
  · exact hP

/-- What a drain of an empty queue answers. -/
def DrainOutcome.atEnd (initial mtu : UInt32) (progress : Bool) : DrainOutcome :=
  if mtu < initial then .mtuChanged else if progress then .progress else .exhausted

theorem World.drainFrom_eq (w : World σ) (ttl : UInt8) (initial : UInt32) (progress : Bool)
    (t : Tracing σ) :
    w.drainFrom ttl initial progress t =
      match w.readOne ttl t with
      | .error e t' => .error e t'
      | .ok none t' => .ok (.atEnd initial t'.session.mtu progress) t'
      | .ok (some none) t' => .ok .exhausted t'
      | .ok (some (some hop)) t' =>
        match DrainOutcome.ofStatus? hop.status with
        | some outcome => .ok outcome t'
        | none => w.drainFrom ttl initial true t' := by
  rw [World.drainFrom]
  unfold World.readOne
  split
  case h_1 read => simp only [read]
  case h_2 read => simp only [read]; rfl
  case h_3 n world read =>
    simp only [read]
    split
    case h_1 decoded => simp only [decoded]
    case h_2 decoded => simp only [decoded]
    case h_3 hop t' decoded =>
      cases status : DrainOutcome.ofStatus? hop.status with
      | none => simp only [decoded, status]
      | some outcome => simp only [decoded, status]

inductive DrainExec (w : World σ) (ttl : UInt8) (initial : UInt32) :
    Bool → Tracing σ → EStateM.Result Failure (Tracing σ) DrainOutcome → Prop
  | failed {progress t e t'} : w.readOne ttl t = .error e t' →
      DrainExec w ttl initial progress t (.error e t')
  | emptied {progress t t'} : w.readOne ttl t = .ok none t' →
      DrainExec w ttl initial progress t (.ok (.atEnd initial t'.session.mtu progress) t')
  | uninformed {progress t t'} : w.readOne ttl t = .ok (some none) t' →
      DrainExec w ttl initial progress t (.ok .exhausted t')
  | stopped {progress t hop t' outcome} : w.readOne ttl t = .ok (some (some hop)) t' →
      DrainOutcome.ofStatus? hop.status = some outcome →
      DrainExec w ttl initial progress t (.ok outcome t')
  | decoded {progress t hop t' r} : w.readOne ttl t = .ok (some (some hop)) t' →
      DrainOutcome.ofStatus? hop.status = none →
      DrainExec w ttl initial true t' r →
      DrainExec w ttl initial progress t r

theorem World.drainFrom_exec (w : World σ) (ttl : UInt8) (initial : UInt32) (progress : Bool)
    (t : Tracing σ) :
    DrainExec w ttl initial progress t (w.drainFrom ttl initial progress t) := by
  fun_induction World.drainFrom w ttl initial progress t with
  | case1 progress t e world read => exact .failed (by simp only [readOne, read])
  | case2 progress t world read =>
    have h : w.readOne ttl t = .ok none { t with world } := by simp only [readOne, read]
    exact .emptied h
  | case3 progress t n world read e t' decoded =>
    exact .failed (by simp only [readOne, read, decoded])
  | case4 progress t n world read t' decoded =>
    exact .uninformed (by simp only [readOne, read, decoded])
  | case5 progress t n world read hop t' decoded published outcome stop =>
    exact .stopped (by simp only [readOne, read, decoded]; rfl) stop
  | case6 progress t n world read hop t' decoded published go ih =>
    exact .decoded (by simp only [readOne, read, decoded]; rfl) go ih

theorem World.drain_exec (w : World σ) (ttl : UInt8) (t : Tracing σ) :
    DrainExec w ttl t.session.mtu false t (w.drain ttl t) :=
  w.drainFrom_exec ttl t.session.mtu false t

/-- One attempt to hand the probe in `slot` to the network. -/
def World.shoot (w : World σ) (ttl : UInt8) (slot : Slot) : Step σ Bool := do
  let now ← Step.sense w.now
  Step.update (·.record slot ttl now)
  let session ← Step.session
  w.trySend (session.payload ttl now) (slot.port session.basePort)

theorem World.shoot_eq (w : World σ) (ttl : UInt8) (slot : Slot) (t : Tracing σ) :
    w.shoot ttl slot t =
      w.trySend ((t.session.record slot ttl (w.now t.world).1).payload ttl (w.now t.world).1)
        (slot.port t.session.basePort)
        ⟨t.session.record slot ttl (w.now t.world).1, (w.now t.world).2⟩ := rfl

theorem World.launch_succ (w : World σ) (ttl : UInt8) (slot : Slot) (n : Nat) :
    w.launch ttl slot (n + 1) = (do
      if ← w.shoot ttl slot then
        return .sent
      let outcome ← w.drain ttl
      Step.update (·.clear slot)
      if outcome.isTerminal then
        return .ended outcome
      w.launch ttl slot n) := rfl

inductive LaunchExec (w : World σ) (ttl : UInt8) (slot : Slot) :
    Nat → Tracing σ → EStateM.Result Failure (Tracing σ) Launch → Prop
  | refused {t} : LaunchExec w ttl slot 0 t (.ok .refused t)
  | failed {n t e t₁} : w.shoot ttl slot t = .error e t₁ →
      LaunchExec w ttl slot (n + 1) t (.error e t₁)
  | sent {n t t₁} : w.shoot ttl slot t = .ok true t₁ →
      LaunchExec w ttl slot (n + 1) t (.ok .sent t₁)
  | undrained {n t t₁ e t₂} : w.shoot ttl slot t = .ok false t₁ →
      w.drain ttl t₁ = .error e t₂ →
      LaunchExec w ttl slot (n + 1) t (.error e t₂)
  | ended {n t t₁ outcome t₂} : w.shoot ttl slot t = .ok false t₁ →
      w.drain ttl t₁ = .ok outcome t₂ → outcome.isTerminal = true →
      LaunchExec w ttl slot (n + 1) t
        (.ok (.ended outcome) { t₂ with session := t₂.session.clear slot })
  | retried {n t t₁ outcome t₂ r} : w.shoot ttl slot t = .ok false t₁ →
      w.drain ttl t₁ = .ok outcome t₂ → outcome.isTerminal = false →
      LaunchExec w ttl slot n { t₂ with session := t₂.session.clear slot } r →
      LaunchExec w ttl slot (n + 1) t r

theorem World.launch_exec (w : World σ) (ttl : UInt8) (slot : Slot) (n : Nat) (t : Tracing σ) :
    LaunchExec w ttl slot n t (w.launch ttl slot n t) := by
  induction n generalizing t with
  | zero => exact .refused
  | succ n ih =>
    rw [World.launch_succ]
    simp only [Bind.bind, EStateM.bind]
    cases shot : w.shoot ttl slot t with
    | error e t₁ => exact .failed shot
    | ok accepted t₁ =>
      cases accepted with
      | true => exact .sent shot
      | false =>
        simp only [Bool.false_eq_true, if_false, EStateM.bind]
        cases drained : w.drain ttl t₁ with
        | error e t₂ => exact .undrained shot drained
        | ok outcome t₂ =>
          simp only [Step.update]
          cases ended : outcome.isTerminal with
          | true => exact .ended shot drained ended
          | false => exact .retried shot drained ended (ih _)

/-- A launch that a drain ended was ended by a terminal outcome. -/
theorem LaunchExec.terminal {w : World σ} {ttl : UInt8} {slot : Slot} {n : Nat}
    {t t' : Tracing σ} {r : EStateM.Result Failure (Tracing σ) Launch} {outcome : DrainOutcome}
    (h : LaunchExec w ttl slot n t r) (ended : r = .ok (.ended outcome) t') :
    outcome.isTerminal = true := by
  induction h with
  | refused => cases ended
  | failed _ => cases ended
  | sent _ => cases ended
  | undrained _ _ => cases ended
  | retried _ _ _ _ ih => exact ih ended
  | ended _ _ terminal =>
    injection ended with same _
    injection same with same
    exact same ▸ terminal

inductive CollectExec (w : World σ) (ttl : UInt8) (t : Tracing σ) :
    EStateM.Result Failure (Tracing σ) ProbeOutcome → Prop
  | unawaited {e t₁} : Step.world (w.awaitReadable replyWait) t = .error e t₁ →
      CollectExec w ttl t (.error e t₁)
  | unanswered {readable t₁ e t₂} : Step.world (w.awaitReadable replyWait) t = .ok readable t₁ →
      Step.world w.receiveReply t₁ = .error e t₂ →
      CollectExec w ttl t (.error e t₂)
  | replied {readable t₁ size t₂} : Step.world (w.awaitReadable replyWait) t = .ok readable t₁ →
      Step.world w.receiveReply t₁ = .ok (some size) t₂ →
      CollectExec w ttl t
        (.ok .replyReceived { t₂ with world := w.publish (.replyReceived ttl) t₂.world })
  | undrained {readable t₁ t₂ e t₃} : Step.world (w.awaitReadable replyWait) t = .ok readable t₁ →
      Step.world w.receiveReply t₁ = .ok none t₂ → w.drain ttl t₂ = .error e t₃ →
      CollectExec w ttl t (.error e t₃)
  | drained {readable t₁ t₂ outcome t₃} :
      Step.world (w.awaitReadable replyWait) t = .ok readable t₁ →
      Step.world w.receiveReply t₁ = .ok none t₂ → w.drain ttl t₂ = .ok outcome t₃ →
      CollectExec w ttl t (.ok (.decoded outcome) t₃)

theorem World.collect_exec (w : World σ) (ttl : UInt8) (t : Tracing σ) :
    CollectExec w ttl t (w.collect ttl t) := by
  unfold World.collect
  simp only [Bind.bind, EStateM.bind]
  cases awaited : Step.world (w.awaitReadable replyWait) t with
  | error e t₁ => exact .unawaited awaited
  | ok readable t₁ =>
    dsimp only
    cases answered : Step.world w.receiveReply t₁ with
    | error e t₂ => exact .unanswered awaited answered
    | ok reply t₂ =>
      cases reply with
      | some size => exact .replied awaited answered
      | none =>
        dsimp only [EStateM.bind]
        cases drained : w.drain ttl t₂ with
        | error e t₃ => exact .undrained awaited answered drained
        | ok outcome t₃ => exact .drained awaited answered drained

inductive ProbeExec (w : World σ) (ttl : UInt8) (t : Tracing σ) :
    EStateM.Result Failure (Tracing σ) ProbeOutcome → Prop
  | failed {e t₁} : w.launch ttl t.session.history.cursor maxSendAttempts t = .error e t₁ →
      ProbeExec w ttl t (.error e t₁)
  | sent {t₁ r} : w.launch ttl t.session.history.cursor maxSendAttempts t = .ok .sent t₁ →
      CollectExec w ttl { t₁ with session := t₁.session.advance } r →
      ProbeExec w ttl t r
  | ended {outcome t₁} :
      w.launch ttl t.session.history.cursor maxSendAttempts t = .ok (.ended outcome) t₁ →
      ProbeExec w ttl t (.ok (.decoded outcome) { t₁ with session := t₁.session.advance })
  | refused {t₁} : w.launch ttl t.session.history.cursor maxSendAttempts t = .ok .refused t₁ →
      ProbeExec w ttl t (.ok .sendFailed
        { session := t₁.session.advance, world := w.publish (.sendFailed ttl) t₁.world })

theorem World.sendProbe_exec (w : World σ) (ttl : UInt8) (t : Tracing σ) :
    ProbeExec w ttl t (w.sendProbe ttl t) := by
  unfold World.sendProbe
  simp only [Step.session, Step.update, Bind.bind, EStateM.bind]
  cases launched : w.launch ttl t.session.history.cursor maxSendAttempts t with
  | error e t₁ => exact .failed launched
  | ok launch t₁ =>
    cases launch with
    | sent => exact .sent launched (w.collect_exec ttl _)
    | ended outcome => exact .ended launched
    | refused => exact .refused launched

/-- A call of the probe engine: the ttl and the state it starts from. -/
structure Attempt (σ : Type) where
  ttl : UInt8
  start : Tracing σ

namespace Attempt

def result (w : World σ) (a : Attempt σ) : EStateM.Result Failure (Tracing σ) ProbeOutcome :=
  w.sendProbe a.ttl a.start

/-- The attempt left a lower path MTU behind. -/
def lowers (w : World σ) (a : Attempt σ) : Bool :=
  (finalState (a.result w)).session.mtu < a.start.session.mtu

end Attempt

theorem length_filter_cons {α : Type} (p : α → Bool) (a : α) (as : List α) :
    ((a :: as).filter p).length = (p a).toNat + (as.filter p).length := by
  rw [List.filter_cons]
  cases p a with
  | true => simp [Nat.add_comm]
  | false => simp

section Attempts
variable {w : World σ} {ttl : UInt8}

/-- An attempt either lowers the path MTU or leaves it as it was. -/
theorem mtu_sendProbe_le {t : Tracing σ} {r : EStateM.Result Failure (Tracing σ) ProbeOutcome}
    (sent : w.sendProbe ttl t = r) :
    (finalState r).session.mtu.toNat + (Attempt.lowers w ⟨ttl, t⟩).toNat ≤
      t.session.mtu.toNat := by
  have h : (finalState r).session.mtu.toNat ≤ t.session.mtu.toNat :=
    sent ▸ w.neverRaises_sendProbe ttl t
  unfold Attempt.lowers Attempt.result
  simp only [sent]
  cases lower : decide ((finalState r).session.mtu < t.session.mtu) with
  | true =>
    have hl : (finalState r).session.mtu.toNat < t.session.mtu.toNat :=
      UInt32.lt_iff_toNat_lt.mp (of_decide_eq_true lower)
    rw [Bool.toNat_true]
    omega
  | false => exact h

theorem lowers_of_ne {t t' : Tracing σ} {outcome : ProbeOutcome}
    (sent : w.sendProbe ttl t = .ok outcome t') (changed : t'.session.mtu ≠ t.session.mtu) :
    Attempt.lowers w ⟨ttl, t⟩ = true := by
  have h := w.neverRaises_sendProbe ttl t
  rw [sent] at h
  unfold Attempt.lowers Attempt.result
  rw [sent]
  exact decide_eq_true (UInt32.lt_of_le_of_ne h changed)

end Attempts

theorem World.probeTtlFrom_zero (w : World σ) (ttl : UInt8) (t : Tracing σ) :
    w.probeTtlFrom ttl 0 t = .ok none { t with world := w.publish (.noReply ttl) t.world } := by
  rw [World.probeTtlFrom]

theorem World.probeTtlFrom_succ (w : World σ) (ttl : UInt8) (left : Nat) (t : Tracing σ) :
    w.probeTtlFrom ttl (left + 1) t =
      match w.sendProbe ttl t with
      | .error e t' => .error e t'
      | .ok outcome t' =>
        if t'.session.mtu ≠ t.session.mtu then w.probeTtlFrom ttl maxTtlAttempts t'
        else match Completion.ofOutcome? outcome with
          | some completion => .ok (some completion) t'
          | none =>
            if outcome = .decoded .progress then .ok none t'
            else w.probeTtlFrom ttl left t' := by
  rw [World.probeTtlFrom]
  split
  case h_1 sent => simp only [sent]
  case h_2 sent => simp only [sent]; rfl

inductive TtlExec (w : World σ) (ttl : UInt8) :
    Nat → Tracing σ → List (Attempt σ) →
      EStateM.Result Failure (Tracing σ) (Option Completion) → Prop
  | unanswered {t} :
      TtlExec w ttl 0 t [] (.ok none { t with world := w.publish (.noReply ttl) t.world })
  | failed {left t e t'} : w.sendProbe ttl t = .error e t' →
      TtlExec w ttl (left + 1) t [⟨ttl, t⟩] (.error e t')
  | restarted {left t outcome t' as r} : w.sendProbe ttl t = .ok outcome t' →
      t'.session.mtu ≠ t.session.mtu →
      TtlExec w ttl maxTtlAttempts t' as r →
      TtlExec w ttl (left + 1) t (⟨ttl, t⟩ :: as) r
  | ended {left t outcome t' completion} : w.sendProbe ttl t = .ok outcome t' →
      t'.session.mtu = t.session.mtu →
      Completion.ofOutcome? outcome = some completion →
      TtlExec w ttl (left + 1) t [⟨ttl, t⟩] (.ok (some completion) t')
  | advanced {left t t'} : w.sendProbe ttl t = .ok (.decoded .progress) t' →
      t'.session.mtu = t.session.mtu →
      TtlExec w ttl (left + 1) t [⟨ttl, t⟩] (.ok none t')
  | repeated {left t outcome t' as r} : w.sendProbe ttl t = .ok outcome t' →
      t'.session.mtu = t.session.mtu →
      Completion.ofOutcome? outcome = none → outcome ≠ .decoded .progress →
      TtlExec w ttl left t' as r →
      TtlExec w ttl (left + 1) t (⟨ttl, t⟩ :: as) r

theorem World.probeTtlFrom_exec (w : World σ) (ttl : UInt8) (left : Nat) (t : Tracing σ) :
    ∃ as, TtlExec w ttl left t as (w.probeTtlFrom ttl left t) := by
  fun_induction World.probeTtlFrom w ttl left t with
  | case1 t => exact ⟨_, .unanswered⟩
  | case2 t left e t' sent => exact ⟨_, .failed sent⟩
  | case3 t left outcome t' sent changed ih =>
    obtain ⟨as, h⟩ := ih
    exact ⟨_, .restarted sent changed h⟩
  | case4 t left outcome t' sent same completion ended =>
    exact ⟨_, .ended sent (Decidable.not_not.mp same) ended⟩
  | case5 t left t' same sent ended => exact ⟨_, .advanced sent (Decidable.not_not.mp same)⟩
  | case6 t left outcome t' sent same ended stuck ih =>
    obtain ⟨as, h⟩ := ih
    exact ⟨_, .repeated sent (Decidable.not_not.mp same) ended stuck h⟩

/-- The attempts are kept by ttl; a ttl whose hop limit could not be set has none. -/
inductive PathExec (w : World σ) :
    List UInt8 → Tracing σ → List (List (Attempt σ)) →
      EStateM.Result Failure (Tracing σ) Completion → Prop
  | spent {t} : PathExec w [] t [] (.ok .tooManyHops t)
  | unset {ttl rest t e t'} : Step.world (w.setTtl ttl) t = .error e t' →
      PathExec w (ttl :: rest) t [] (.error e t')
  | failed {ttl rest t t₁ as e t'} : Step.world (w.setTtl ttl) t = .ok () t₁ →
      TtlExec w ttl maxTtlAttempts t₁ as (.error e t') →
      PathExec w (ttl :: rest) t [as] (.error e t')
  | ended {ttl rest t t₁ as completion t'} : Step.world (w.setTtl ttl) t = .ok () t₁ →
      TtlExec w ttl maxTtlAttempts t₁ as (.ok (some completion) t') →
      PathExec w (ttl :: rest) t [as] (.ok completion t')
  | advanced {ttl rest t t₁ as t' walk r} : Step.world (w.setTtl ttl) t = .ok () t₁ →
      TtlExec w ttl maxTtlAttempts t₁ as (.ok none t') →
      PathExec w rest t' walk r →
      PathExec w (ttl :: rest) t (as :: walk) r

theorem World.traceOver_exec (w : World σ) (ttls : List UInt8) (t : Tracing σ) :
    ∃ walk, PathExec w ttls t walk (w.traceOver ttls t) := by
  induction ttls generalizing t with
  | nil => exact ⟨_, .spent⟩
  | cons ttl rest ih =>
    cases set : Step.world (w.setTtl ttl) t with
    | error e t' =>
      refine ⟨[], ?_⟩
      simp only [World.traceOver, Bind.bind, EStateM.bind, set]
      exact .unset set
    | ok u t₁ =>
      obtain ⟨as, h⟩ := w.probeTtlFrom_exec ttl maxTtlAttempts t₁
      simp only [World.traceOver, Bind.bind, EStateM.bind, set, World.probeTtl]
      cases probed : w.probeTtlFrom ttl maxTtlAttempts t₁ with
      | error e t' => exact ⟨_, .failed set (probed ▸ h)⟩
      | ok found t' =>
        cases found with
        | some completion => exact ⟨_, .ended set (probed ▸ h)⟩
        | none =>
          obtain ⟨walk, hr⟩ := ih t'
          exact ⟨_, .advanced set (probed ▸ h) hr⟩

/-- What a trace that ended so reports. -/
def Session.summary (s : Session) (completion : Completion) : Summary :=
  ⟨s.mtu, s.hopsTo, s.hopsFrom, completion⟩

inductive TraceExec (w : World σ) (t : Tracing σ) :
    List (List (Attempt σ)) → EStateM.Result Failure (Tracing σ) Summary → Prop
  | failed {walk e t'} : PathExec w t.session.ttls t walk (.error e t') →
      TraceExec w t walk (.error e t')
  | finished {walk completion t'} : PathExec w t.session.ttls t walk (.ok completion t') →
      TraceExec w t walk (.ok (t'.session.summary completion) t')

theorem World.trace_exec (w : World σ) (t : Tracing σ) :
    ∃ walk, TraceExec w t walk (w.trace t) := by
  obtain ⟨walk, h⟩ := w.traceOver_exec t.session.ttls t
  refine ⟨walk, ?_⟩
  simp only [World.trace, Step.session, Bind.bind, EStateM.bind]
  cases traced : w.traceOver t.session.ttls t with
  | error e t' => exact .failed (traced ▸ h)
  | ok completion t' => exact .finished (traced ▸ h)

/-- The ttls of a trace start from one. -/
theorem Session.pos_of_mem_ttls {s : Session} {ttl : UInt8} (m : ttl ∈ s.ttls) : 0 < ttl := by
  unfold Session.ttls at m
  obtain ⟨i, small, rfl⟩ := List.mem_map.mp m
  have bound := List.mem_range.mp small
  have fits := s.maxTtl.toNat_lt
  rw [UInt8.lt_iff_toNat_lt, UInt8.toNat_ofNat', Nat.mod_eq_of_lt (by omega)]
  exact Nat.succ_pos i

/-- The attempts at a ttl probe this ttl. -/
theorem TtlExec.ttl_eq {w : World σ} {ttl : UInt8} {left : Nat} {t : Tracing σ}
    {as : List (Attempt σ)} {r : EStateM.Result Failure (Tracing σ) (Option Completion)}
    (h : TtlExec w ttl left t as r) : ∀ a ∈ as, a.ttl = ttl := by
  induction h with
  | unanswered => simp
  | failed _ => simp
  | ended _ _ _ => simp
  | advanced _ _ => simp
  | restarted _ _ _ ih => simpa using ih
  | repeated _ _ _ _ _ ih => simpa using ih

theorem PathExec.mem_ttls {w : World σ} {ttls : List UInt8} {t : Tracing σ}
    {walk : List (List (Attempt σ))} {r : EStateM.Result Failure (Tracing σ) Completion}
    (h : PathExec w ttls t walk r) : ∀ a ∈ walk.flatten, a.ttl ∈ ttls := by
  induction h with
  | spent => simp
  | unset _ => simp
  | failed _ probed =>
    intro a m
    rw [List.flatten_cons, List.flatten_nil, List.append_nil] at m
    exact probed.ttl_eq a m ▸ List.mem_cons_self
  | ended _ probed =>
    intro a m
    rw [List.flatten_cons, List.flatten_nil, List.append_nil] at m
    exact probed.ttl_eq a m ▸ List.mem_cons_self
  | advanced _ probed _ ih =>
    intro a m
    rw [List.flatten_cons] at m
    rcases List.mem_append.mp m with first | later
    · exact probed.ttl_eq a first ▸ List.mem_cons_self
    · exact List.mem_cons_of_mem _ (ih a later)

theorem TraceExec.mem_ttls {w : World σ} {t : Tracing σ} {walk : List (List (Attempt σ))}
    {r : EStateM.Result Failure (Tracing σ) Summary} (h : TraceExec w t walk r) :
    ∀ a ∈ walk.flatten, a.ttl ∈ t.session.ttls := by
  cases h with
  | failed path => exact path.mem_ttls
  | finished path => exact path.mem_ttls

section Unique
variable {w : World σ} {t : Tracing σ} {walk walk' : List (List (Attempt σ))}

theorem TtlExec.unique {ttl : UInt8} {left : Nat} {as as' : List (Attempt σ)}
    {r r' : EStateM.Result Failure (Tracing σ) (Option Completion)}
    (h : TtlExec w ttl left t as r) (h' : TtlExec w ttl left t as' r') : as' = as ∧ r' = r := by
  -- Both derivations start with the same call of the engine, whose answer picks the rule.
  induction h generalizing as' r' with
  | unanswered =>
    cases h' with
    | unanswered => exact ⟨rfl, rfl⟩
  | failed sent => cases h' <;> simp_all
  | ended sent same ended => cases h' <;> grind [Completion.ofOutcome?]
  | advanced sent same => cases h' <;> simp_all [Completion.ofOutcome?]
  | restarted sent changed _ ih => cases h' <;> grind
  | repeated sent same going stuck _ ih => cases h' <;> grind [Completion.ofOutcome?]

theorem PathExec.unique {ttls : List UInt8} {r r' : EStateM.Result Failure (Tracing σ) Completion}
    (h : PathExec w ttls t walk r) (h' : PathExec w ttls t walk' r') :
    walk' = walk ∧ r' = r := by
  induction h generalizing walk' r' with
  | spent =>
    cases h' with
    | spent => exact ⟨rfl, rfl⟩
  | unset set => cases h' <;> simp_all
  | failed set probed => cases h' <;> grind [TtlExec.unique]
  | ended set probed => cases h' <;> grind [TtlExec.unique]
  | advanced set probed _ ih => cases h' <;> grind [TtlExec.unique]

theorem TraceExec.unique {r r' : EStateM.Result Failure (Tracing σ) Summary}
    (h : TraceExec w t walk r) (h' : TraceExec w t walk' r') : walk' = walk ∧ r' = r := by
  cases h <;> cases h' <;> grind [PathExec.unique]

end Unique

end HopTrace
