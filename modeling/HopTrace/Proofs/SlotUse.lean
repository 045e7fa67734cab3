import HopTrace.Proofs.Attribution
import HopTrace.Proofs.Calls
import HopTrace.Proofs.ProbeProtocol

/-!
# The slot a probe uses

A probe is recorded in the slot under the cursor before every attempt to send it, and the
slot is emptied after every attempt that is refused. So the slot holds a record afterwards
only of a datagram that was accepted, and not if a notification has named its port since.
Every other slot is left alone unless a notification names its port. The cursor moves on by
one, however often the probe was refused.
-/
namespace HopTrace

variable {σ : Type}

/-- A notification is read that names the port. -/
def Exchange.namesPort (port : UInt16) : Exchange → Bool
  | .receiveNotification (.ok (some n)) => n.port = some port
  | _ => false

theorem ite_any_append (port : UInt16) (later talk : List Exchange) (r : Option ProbeRecord) :
    (if (later ++ talk).any (·.namesPort port) then none else r) =
      if later.any (·.namesPort port) then none
      else if talk.any (·.namesPort port) then none else r := by
  rw [List.any_append]
  cases later.any (·.namesPort port) <;> rfl

/-- What exchanges leave of a session, apart from the record in one slot. -/
structure Session.Spared (slot : Slot) (talk : List Exchange) (s s' : Session) : Prop where
  setup : s.SameSetup s'
  mtu : s'.mtu ≤ s.mtu
  others : ∀ other ≠ slot, s'.history.get? other =
    if talk.any (·.namesPort (other.port s.basePort)) then none else s.history.get? other

namespace Session.Spared
variable {slot : Slot} {talk later : List Exchange} {s s' s'' : Session}

theorem refl (slot : Slot) (s : Session) : s.Spared slot [] s where
  setup := .refl s
  mtu := UInt32.le_refl _
  others _ _ := rfl

theorem trans (h : s.Spared slot talk s') (h' : s'.Spared slot later s'') :
    s.Spared slot (later ++ talk) s'' where
  setup := h.setup.trans h'.setup
  mtu := UInt32.le_trans h'.mtu h.mtu
  others other ne := by
    rw [h'.others other ne, h.others other ne, h.setup.basePort, ite_any_append]

theorem record (slot : Slot) (s : Session) (ttl : UInt8) (now : Instant)
    (quiet : ∀ port, talk.any (·.namesPort port) = false) :
    s.Spared slot talk (s.record slot ttl now) where
  setup := ⟨rfl, rfl, rfl, rfl, rfl, rfl⟩
  mtu := UInt32.le_refl _
  others other ne := by
    rw [quiet]
    exact (s.history.get?_record slot other ttl now).trans (if_neg ne.symm)

theorem clear (slot : Slot) (s : Session) : s.Spared slot [] (s.clear slot) where
  setup := ⟨rfl, rfl, rfl, rfl, rfl, rfl⟩
  mtu := UInt32.le_refl _
  others other ne := (s.history.get?_clear slot other).trans (if_neg ne.symm)

end Session.Spared

theorem Session.get?_clear_self (s : Session) (slot : Slot) :
    (s.clear slot).history.get? slot = none :=
  (s.history.get?_clear slot slot).trans (if_pos rfl)

section Drain
variable {w : World σ} {ttl : UInt8} {s : Session} {talk : List Exchange}

theorem World.Decodes.any_namesPort {n : Notification} (h : w.Decodes ttl s n talk)
    (port : UInt16) : talk.any (·.namesPort port) = true ↔ n.port = some port := by
  obtain ⟨names, reports, asked⟩ := h
  have silent : names.any (·.namesPort port) = false := by
    apply List.any_eq_false.mpr
    intro x mem
    obtain ⟨a, name, rfl⟩ := asked x mem
    exact Bool.false_ne_true
  rw [List.any_cons, List.any_append, silent]
  simp [Exchange.namesPort]

variable {initial : UInt32} {progress : Bool}
variable {r : EStateM.Result Failure Session DrainOutcome}

/-- A drain empties the slots whose ports it is told of, and no others. -/
theorem DrainTalk.get? (h : DrainTalk w ttl initial progress s talk r) (slot : Slot) :
    (finalState r).history.get? slot =
      if talk.any (·.namesPort (slot.port s.basePort)) then none else s.history.get? slot := by
  induction h with
  | unread => rfl
  | @undecoded _ s n e _ => simp [(s.consumed_after ttl n).slots, Exchange.namesPort]
  | emptied => rfl
  | @stopped _ s n talk decoded _ =>
    rw [finalState_ok, (s.consumed_after ttl n).slots]
    simp only [decoded.any_namesPort]
  | @going _ s n talk later r decoded _ _ ih =>
    rw [ih, (s.consumed_after ttl n).slots, (Session.SameSetup.after ttl s n).basePort,
      ite_any_append]
    simp only [decoded.any_namesPort]

theorem DrainTalk.mtu_le (h : DrainTalk w ttl initial progress s talk r) :
    (finalState r).mtu ≤ s.mtu := by
  induction h with
  | unread => exact UInt32.le_refl _
  | undecoded _ => exact Session.mtu_decode_le ttl _ _
  | emptied => exact UInt32.le_refl _
  | stopped _ _ => exact Session.mtu_decode_le ttl _ _
  | going _ _ _ ih => exact UInt32.le_trans ih (Session.mtu_decode_le ttl _ _)

theorem DrainTalk.spared (h : DrainTalk w ttl initial progress s talk r) (slot : Slot) :
    s.Spared slot talk (finalState r) :=
  ⟨h.setup, h.mtu_le, fun other _ => h.get? other⟩

end Drain

theorem Session.any_namesPort_shot (s : Session) (ttl : UInt8) (port : UInt16) (now : Instant)
    (answer : Except Failure Unit) (port' : UInt16) :
    (s.shot ttl port now answer).any (·.namesPort port') = false := rfl

section Launch
variable {w : World σ} {ttl : UInt8} {slot : Slot} {port : UInt16} {attempts : Nat}
variable {s s' : Session} {rebuffs : List Rebuff} {talk : List Exchange}

theorem Rebuff.Made.spared {r : Rebuff} (made : r.Made w ttl slot) (port : UInt16) :
    r.session.Spared slot (r.talk ttl port) (finalState r.ending) := by
  have recorded := Session.Spared.record slot r.session ttl r.now
    (r.session.any_namesPort_shot ttl port r.now (.error (.probeFailed r.cause)))
  exact recorded.trans (DrainTalk.spared made slot)

theorem Rebuffed.spared (h : Rebuffed w ttl slot port s rebuffs talk s') :
    s.Spared slot talk s' := by
  induction h with
  | none => exact .refl slot _
  | more made _ _ ih => exact ((made.spared port).trans (.clear slot _)).trans ih

/-- The slot is empty once a datagram has been refused. -/
theorem Rebuffed.get?_slot (h : Rebuffed w ttl slot port s rebuffs talk s')
    (empty : rebuffs ≠ [] ∨ s.history.get? slot = Option.none) :
    s'.history.get? slot = Option.none := by
  induction h with
  | none => exact empty.resolve_left (absurd rfl)
  | more _ _ _ ih => exact ih (.inr (Session.get?_clear_self _ slot))

theorem LaunchTalk.spared {result : EStateM.Result Failure Session Launch}
    (h : LaunchTalk w ttl slot port attempts s rebuffs talk result) :
    s.Spared slot talk (finalState result) := by
  cases h with
  | refused before _ => exact before.spared
  | unsent before _ _ =>
    exact before.spared.trans (.record slot _ ttl _ (Session.any_namesPort_shot _ _ _ _ _))
  | sent before _ =>
    exact before.spared.trans (.record slot _ ttl _ (Session.any_namesPort_shot _ _ _ _ _))
  | undrained before _ made failed =>
    have last := made.spared port
    rw [failed] at last
    exact before.spared.trans last
  | ended before _ made ending _ =>
    have last := made.spared port
    rw [ending] at last
    exact (before.spared.trans last).trans (.clear slot _)

/-- The slot is empty unless a datagram was accepted. -/
theorem LaunchTalk.get?_slot {launch : Launch}
    (h : LaunchTalk w ttl slot port attempts s rebuffs talk (.ok launch s'))
    (some : 0 < attempts) (unsent : launch ≠ .sent) : s'.history.get? slot = none := by
  cases h with
  | refused before all =>
    apply before.get?_slot
    left
    rintro rfl
    rw [List.length_nil] at all
    omega
  | sent _ _ => exact absurd rfl unsent
  | ended _ _ _ _ _ => exact Session.get?_clear_self _ slot

theorem LaunchTalk.sent_cases
    (h : LaunchTalk w ttl slot port attempts s rebuffs talk (.ok .sent s')) :
    ∃ payload now earlier, talk = .send payload port (.ok ()) :: .now now :: earlier ∧
      s'.history.get? slot = some ⟨ttl, now⟩ ∧ earlier.countP Exchange.accepts = 0 := by
  cases h with
  | @sent _ earlier s₁ now before _ =>
    have recorded : (s₁.record slot ttl now).history.get? slot = some ⟨ttl, now⟩ :=
      (s₁.history.get?_record slot slot ttl now).trans (if_pos rfl)
    exact ⟨_, now, earlier, rfl, recorded, before.unaccepted⟩

end Launch

namespace CollectTalk
variable {w : World σ} {ttl : UInt8} {s : Session} {talk : List Exchange}
variable {r : EStateM.Result Failure Session ProbeOutcome}

theorem get? (h : CollectTalk w ttl s talk r) (slot : Slot) :
    (finalState r).history.get? slot =
      if talk.any (·.namesPort (slot.port s.basePort)) then none else s.history.get? slot := by
  cases h with
  | unawaited => rfl
  | unanswered => rfl
  | replied => rfl
  | undrained drains => simpa [Exchange.namesPort] using drains.get? slot
  | drained drains => simpa [Exchange.namesPort] using drains.get? slot

theorem spared (h : CollectTalk w ttl s talk r) (slot : Slot) :
    s.Spared slot talk (finalState r) := by
  have others : ∀ other ≠ slot, _ := fun other _ => h.get? other
  cases h with
  | unawaited => exact ⟨.refl s, UInt32.le_refl _, others⟩
  | unanswered => exact ⟨.refl s, UInt32.le_refl _, others⟩
  | replied => exact ⟨.refl s, UInt32.le_refl _, others⟩
  | undrained drains => exact ⟨drains.setup, drains.mtu_le, others⟩
  | drained drains => exact ⟨drains.setup, drains.mtu_le, others⟩

end CollectTalk

/-- What one call of the probe engine leaves of a session, given its exchanges. -/
structure ProbeEffect (ttl : UInt8) (s : Session) (past : List Exchange) (outcome : ProbeOutcome)
    (s' : Session) : Prop where
  cursor : s'.history.cursor.val = (s.history.cursor.val + 1) % 64
  /-- The record of the datagram that was accepted, with the time it was sent. -/
  used : ∀ r, s'.history.get? s.history.cursor = some r ↔ r.ttl = ttl ∧
    ∃ payload later earlier, past = later ++
        .send payload (s.history.cursor.port s.basePort) (.ok ()) :: .now r.sent :: earlier ∧
      later.any (·.namesPort (s.history.cursor.port s.basePort)) = false
  unused : outcome = .sendFailed ∨ past.countP Exchange.accepts = 0 →
    s'.history.get? s.history.cursor = none
  others : ∀ slot ≠ s.history.cursor, s'.history.get? slot =
    if past.any (·.namesPort (slot.port s.basePort)) then none else s.history.get? slot
  basePort : s'.basePort = s.basePort
  maxTtl : s'.maxTtl = s.maxTtl
  mode : s'.mode = s.mode
  mtu : s'.mtu ≤ s.mtu

section Effect
variable {w : World σ} {ttl : UInt8} {s s' : Session} {rebuffs : List Rebuff}
variable {past : List Exchange} {outcome : ProbeOutcome}

theorem countP_accepts_split (later earlier : List Exchange) (payload : Payload) (port : UInt16) :
    (later ++ .send payload port (.ok ()) :: earlier).countP Exchange.accepts ≠ 0 :=
  fun unaccepted =>
    List.countP_eq_zero.mp unaccepted _ (List.mem_append_right later List.mem_cons_self) rfl

/-- A probe that is not sent leaves no record, whatever is published afterwards. -/
theorem LaunchTalk.effect {launch : Launch} {events : List Exchange}
    (h : LaunchTalk w ttl s.history.cursor (s.history.cursor.port s.basePort) 10 s
      rebuffs past (.ok launch s'))
    (unsent : launch ≠ .sent) (published : ∀ x ∈ events, ∃ e, x = .event e) :
    ProbeEffect ttl s (events ++ past) outcome s'.advance := by
  have spared := h.spared
  have empty : s'.advance.history.get? s.history.cursor = none :=
    h.get?_slot (by decide) unsent
  have unaccepted : (events ++ past).countP Exchange.accepts = 0 := by
    have silent : events.countP Exchange.accepts = 0 := by
      apply Exchange.countP_accepts_eq_zero
      intro x mem
      obtain ⟨e, rfl⟩ := published x mem
      rfl
    have other : answer? (.ok launch s' : EStateM.Result Failure Session Launch) ≠ some .sent :=
      fun same => unsent (Option.some.inj same)
    rw [List.countP_append, silent, h.accepted, if_neg other]
  constructor
  case cursor => exact congrArg (fun cursor : Slot => cursor.next.val) spared.setup.cursor
  case used =>
    intro r
    refine iff_of_false ?_ ?_
    · intro held
      cases empty.symm.trans held
    · rintro ⟨-, payload, later, earlier, split, -⟩
      rw [split] at unaccepted
      exact countP_accepts_split later _ _ _ unaccepted
  case unused => exact fun _ => empty
  case others =>
    intro other ne
    have silent : events.any (·.namesPort (other.port s.basePort)) = false := by
      apply List.any_eq_false.mpr
      intro x mem
      obtain ⟨e, rfl⟩ := published x mem
      exact Bool.false_ne_true
    rw [List.any_append, silent]
    exact spared.others other ne
  case basePort => exact spared.setup.basePort
  case maxTtl => exact spared.setup.maxTtl
  case mode => exact spared.setup.mode
  case mtu => exact spared.mtu

/-- The only accepted datagram of a transcript splits it in one way. -/
theorem accepted_split {later earlier later' earlier' : List Exchange} {payload payload' : Payload}
    {port : UInt16} {now now' : Instant} (after : later.countP Exchange.accepts = 0)
    (before : earlier.countP Exchange.accepts = 0)
    (same : later ++ .send payload port (.ok ()) :: .now now :: earlier =
      later' ++ .send payload' port (.ok ()) :: .now now' :: earlier') :
    later = later' ∧ now = now' := by
  have here : .send payload' port (.ok ()) :: .now now' :: earlier' <:+
      later ++ .send payload port (.ok ()) :: .now now :: earlier :=
    same ▸ List.suffix_append later' _
  rcases mem_or_suffix here with mem | here
  · exact (List.countP_eq_zero.mp after _ mem rfl).elim
  · rcases cons_suffix_cases here with ⟨first, rest⟩ | here
    · rw [first, rest] at same
      injection rest with reading
      injection reading with reading
      exact ⟨List.append_cancel_right same, reading.symm⟩
    · have mem := (suffix_of_ne Exchange.noConfusion here).subset List.mem_cons_self
      exact (List.countP_eq_zero.mp before _ mem rfl).elim

theorem Conversation.effect
    (h : Conversation w ttl s.history.cursor (s.history.cursor.port s.basePort) s rebuffs past
      (.ok outcome s')) : ProbeEffect ttl s past outcome s' := by
  cases h with
  | ended launch => exact launch.effect nofun (List.forall_mem_nil _)
  | refused launch => exact launch.effect nofun (List.forall_mem_singleton.mpr ⟨_, rfl⟩)
  | @sent _ s₁ later _ launch collect =>
    have before : s.Spared s.history.cursor _ s₁ := launch.spared
    have after : s₁.advance.Spared s.history.cursor later s' := collect.spared _
    have held : s'.history.get? s.history.cursor = _ := collect.get? s.history.cursor
    have basePort : s₁.advance.basePort = s.basePort := before.setup.basePort
    obtain ⟨payload, now, earlier, rfl, recorded, unaccepted⟩ := launch.sent_cases
    have advanced : s₁.advance.history.get? s.history.cursor = some ⟨ttl, now⟩ := recorded
    have quiet := Exchange.countP_accepts_eq_zero collect.not_isSend
    rw [basePort, advanced] at held
    constructor
    case cursor =>
      rw [after.setup.cursor]
      exact congrArg (fun cursor : Slot => cursor.next.val) before.setup.cursor
    case used =>
      intro r
      rw [held, Option.ite_none_left_eq_some, Bool.not_eq_true, Option.some_inj]
      constructor
      · rintro ⟨unnamed, rfl⟩
        exact ⟨rfl, payload, later, earlier, rfl, unnamed⟩
      · rintro ⟨rfl, payload', later', earlier', split, unnamed⟩
        obtain ⟨rfl, rfl⟩ := accepted_split quiet unaccepted split
        exact ⟨unnamed, rfl⟩
    case unused =>
      rintro (failed | none)
      · exact absurd (congrArg some failed) collect.not_mem_sendFailed.2
      · exact absurd none (countP_accepts_split later _ _ _)
    case others =>
      intro other ne
      have kept : s₁.advance.history.get? other = _ := before.others other ne
      rw [after.others other ne, kept, basePort, ite_any_append]
    case basePort => exact after.setup.basePort.trans before.setup.basePort
    case maxTtl => exact after.setup.maxTtl.trans before.setup.maxTtl
    case mode => exact after.setup.mode.trans before.setup.mode
    case mtu => exact UInt32.le_trans after.mtu before.mtu

end Effect

/-- What a call of the probe engine that succeeds leaves of the session. -/
theorem sendProbe_effect (w : World σ) (ttl : UInt8) {t t' : Tracing σ} {outcome : ProbeOutcome}
    (sent : w.sendProbe ttl t = .ok outcome t') :
    ProbeEffect ttl t.session ((w.transcribed.sendProbe ttl).transcript t) outcome t'.session := by
  obtain ⟨rebuffs, talk⟩ := w.sendProbe_talk ttl t
  rw [sent] at talk
  exact talk.effect

namespace Resent
open Simulation

/-- A note about an older probe comes with the refusal. -/
def script : List ScriptEntry :=
  [{ ScriptEntry.empty with
      tick := 1000
      refusal := some (.send Errno.wouldBlock)
      notes := [.notification 0 (.fixed 44447) (.fixed []) (some ⟨.icmp, .timedOut, 11, 0, 0, none⟩)
        none] }]

def world : World ScriptedNetwork := scriptedNetwork.attendedBy (Audience.silent _)

/-- The older probe is in the fourth slot. -/
def tracing : Tracing ScriptedNetwork :=
  ⟨(Session.start SessionConfig.default).record ⟨3, by decide⟩ 2 ⟨1000000000⟩,
    ScriptedNetwork.start ⟨2000000000⟩ script fun _ => none⟩

def past : List Exchange := (world.transcribed.sendProbe 3).transcript tracing

end Resent

/-- A probe that is sent at the second attempt. -/
theorem sendProbe_effect_resent :
    ∃ t', Resent.world.sendProbe 3 Resent.tracing = .ok (.decoded .exhausted) t' ∧
      t'.session.history.cursor.val = 1 ∧
      t'.session.history.get? Slot.first = some ⟨3, ⟨2000001000⟩⟩ ∧
      t'.session.history.get? ⟨3, by decide⟩ = none := by
  have answered : answer? (Resent.world.sendProbe 3 Resent.tracing) =
      some (.decoded .exhausted) := by decide +kernel
  obtain ⟨t', sent⟩ := answer?_eq_some_iff.mp answered
  have effect := sendProbe_effect Resent.world 3 sent
  refine ⟨t', sent, effect.cursor, ?_, ?_⟩
  · refine (effect.used ⟨3, ⟨2000001000⟩⟩).mpr ⟨rfl, ⟨.ofSend 3 ⟨2000001000⟩, 65507⟩,
      Resent.past.take 3, Resent.past.drop 5, ?_, ?_⟩ <;> decide +kernel
  · rw [effect.others _ (by decide)]
    decide +kernel

end HopTrace
