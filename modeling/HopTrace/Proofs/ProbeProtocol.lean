import HopTrace.Proofs.Conversation

/-!
# The protocol of one probe

What the form of a conversation (see `HopTrace.Proofs.Conversation`) implies for its calls
and its result. A datagram is accepted at most once, namely if fewer than ten were refused
and nothing else went wrong until then. The result is known from the conversation, and the
events about a probe that was not sent or was replied to are published once. A call that
fails is the last one, unless it was a datagram that was refused.
-/
namespace HopTrace

variable {σ : Type}

namespace Exchange

/-- The failure of a call. A refused datagram is not one. -/
def failure? : Exchange → Option Failure
  | .send _ _ (.error (.probeFailed _)) => none
  | .setTtl _ (.error e) | .send _ _ (.error e) | .awaitReadable _ (.error e)
  | .receiveReply (.error e) | .receiveNotification (.error e) => some e
  | _ => none

/-- A datagram is accepted. -/
def accepts : Exchange → Bool
  | .send _ _ (.ok ()) => true
  | _ => false

/-- The exchange may occur in a drain. -/
def ofDrain : Exchange → Bool
  | .receiveNotification _ | .resolve _ _ | .event .noInfo | .event (.hop _) => true
  | _ => false

/-- The exchange may occur before a datagram is accepted or given up. -/
def ofLaunch : Exchange → Bool
  | .now _ | .send _ _ _ => true
  | x => x.ofDrain

variable {x : Exchange}

theorem ofLaunch_of_ofDrain (h : x.ofDrain = true) : x.ofLaunch = true := by
  cases x <;> first | rfl | exact h

theorem isSend_of_ofDrain (h : x.ofDrain = true) : x.isSend = false := by
  cases x <;> first | rfl | cases h

/-- Without a datagram none is accepted. -/
theorem countP_accepts_eq_zero {past : List Exchange} (unsent : ∀ x ∈ past, x.isSend = false) :
    past.countP accepts = 0 := by
  apply List.countP_eq_zero.mpr
  intro x mem accepted
  have other := unsent x mem
  cases x <;> first | cases accepted | cases other

theorem failure?_send {payload : Payload} {port : UInt16} {e : Failure}
    (other : ∀ cause, e ≠ .probeFailed cause) :
    (Exchange.send payload port (.error e)).failure? = some e := by
  cases e with
  | probeFailed cause => exact absurd rfl (other cause)
  | _ => rfl

end Exchange

/-- No call has failed. -/
def Unfailed (past : List Exchange) : Prop := ∀ x ∈ past, x.failure? = none

/-- A conversation that fails does so at its latest exchange, and a call that fails makes it
fail. Besides a failed call only a notification can be the cause whose time is too late. -/
inductive StopsAt : List Exchange → Option Failure → Prop
  | answered {past} : Unfailed past → StopsAt past none
  | failed {x e past} : x.failure? = some e → Unfailed past → StopsAt (x :: past) (some e)
  | late {n past} : n.Overflows → Unfailed past →
      StopsAt (.receiveNotification (.ok (some n)) :: past) (some .unrepresentableTime)

section Stops
variable {past before : List Exchange} {e : Option Failure}

theorem Unfailed.append (h : Unfailed past) (h' : Unfailed before) : Unfailed (past ++ before) :=
  List.forall_mem_append.mpr ⟨h, h'⟩

theorem StopsAt.append (h : StopsAt past e) (quiet : Unfailed before) :
    StopsAt (past ++ before) e := by
  cases h with
  | answered all => exact .answered (all.append quiet)
  | failed here all => exact .failed here (all.append quiet)
  | late here all => exact .late here (all.append quiet)

theorem StopsAt.unfailed (h : StopsAt past none) : Unfailed past := by
  cases h with
  | answered all => exact all

end Stops

section Drain
variable {w : World σ} {ttl : UInt8}

theorem World.Decodes.routine {s : Session} {n : Notification} {talk : List Exchange}
    (h : w.Decodes ttl s n talk) : ∀ x ∈ talk, x.ofDrain = true ∧ x.failure? = none := by
  obtain ⟨names, reports, asked⟩ := h
  intro x mem
  rcases List.mem_cons.mp mem with rfl | mem
  · cases reports <;> exact ⟨rfl, rfl⟩
  · rcases List.mem_append.mp mem with mem | mem
    · obtain ⟨_, _, rfl⟩ := asked x mem
      exact ⟨rfl, rfl⟩
    · rw [List.mem_singleton.mp mem]
      exact ⟨rfl, rfl⟩

section Talk
variable {initial : UInt32} {progress : Bool} {s : Session} {talk : List Exchange}
variable {r : EStateM.Result Failure Session DrainOutcome}

theorem DrainTalk.ofDrain (h : DrainTalk w ttl initial progress s talk r) :
    ∀ x ∈ talk, x.ofDrain = true := by
  induction h with
  | stopped decoded _ => exact fun x mem => (decoded.routine x mem).1
  | going decoded _ _ ih =>
    exact List.forall_mem_append.mpr ⟨ih, fun x mem => (decoded.routine x mem).1⟩
  | _ => exact List.forall_mem_singleton.mpr rfl

theorem DrainTalk.not_mem (h : DrainTalk w ttl initial progress s talk r) {x : Exchange}
    (other : x.ofDrain = false) : x ∉ talk := by
  intro mem
  rw [h.ofDrain x mem] at other
  cases other

theorem DrainTalk.stopsAt (h : DrainTalk w ttl initial progress s talk r) :
    StopsAt talk (failure? r) := by
  induction h with
  | unread => exact .failed rfl (List.forall_mem_nil _)
  | @undecoded _ s n e unknown =>
    obtain ⟨rfl, late⟩ := (s.identify_eq_error_iff n e).mp unknown
    exact .late late (List.forall_mem_nil _)
  | emptied => exact .answered (List.forall_mem_singleton.mpr rfl)
  | stopped decoded _ => exact .answered fun x mem => (decoded.routine x mem).2
  | going decoded _ _ ih => exact ih.append fun x mem => (decoded.routine x mem).2

end Talk

end Drain

theorem Session.ofLaunch_shot (s : Session) (ttl : UInt8) (port : UInt16) (now : Instant)
    (answer : Except Failure Unit) : ∀ x ∈ s.shot ttl port now answer, x.ofLaunch = true := by
  simp [Session.shot, Exchange.ofLaunch]

/-- Neither to accept nor to refuse a datagram is a failure. -/
theorem Session.unfailed_shot (s : Session) (ttl : UInt8) (port : UInt16) (now : Instant)
    {answer : Except Failure Unit}
    (fine : answer = .ok () ∨ ∃ cause, answer = .error (.probeFailed cause)) :
    Unfailed (s.shot ttl port now answer) := by
  obtain rfl | ⟨cause, rfl⟩ := fine <;> simp [Unfailed, Session.shot, Exchange.failure?]

section Rebuff
variable {w : World σ} {ttl : UInt8} {slot : Slot} {port : UInt16} {s s' : Session} {r : Rebuff}
variable {rebuffs : List Rebuff} {talk : List Exchange}

namespace Rebuff

theorem passed_of_error {e : Failure} (failed : r.ending = .error e s') : r.passed = false := by
  rw [passed, failed]

theorem passed_of_ok {outcome : DrainOutcome} (ending : r.ending = .ok outcome s') :
    r.passed = !outcome.ends := by
  rw [passed, ending]

theorem not_all_passed_of_error {e : Failure} (failed : r.ending = .error e s') :
    ¬∀ r' ∈ rebuffs ++ [r], r'.passed = true := by
  intro all
  have last := all r List.mem_concat_self
  rw [passed_of_error failed] at last
  cases last

theorem not_all_passed_of_ok {outcome : DrainOutcome} (ending : r.ending = .ok outcome s')
    (terminal : outcome.ends = true) : ¬∀ r' ∈ rebuffs ++ [r], r'.passed = true := by
  intro all
  have last := all r List.mem_concat_self
  rw [passed_of_ok ending, terminal] at last
  cases last

theorem unfailed_of_passed (passed : r.passed = true) : failure? r.ending = none := by
  cases ending : r.ending with
  | ok outcome s => rfl
  | error e s =>
    rw [passed_of_error ending] at passed
    cases passed

theorem Made.ofLaunch (made : r.Made w ttl slot) :
    ∀ x ∈ r.talk ttl port, x.ofLaunch = true := by
  refine List.forall_mem_append.mpr ⟨?_, r.session.ofLaunch_shot ttl port r.now _⟩
  exact fun x mem => x.ofLaunch_of_ofDrain (made.ofDrain x mem)

theorem Made.unaccepted (made : r.Made w ttl slot) :
    (r.talk ttl port).countP Exchange.accepts = 0 := by
  have drained : r.drained.countP Exchange.accepts = 0 :=
    Exchange.countP_accepts_eq_zero fun x mem => x.isSend_of_ofDrain (made.ofDrain x mem)
  rw [Rebuff.talk, List.countP_append, drained]
  rfl

theorem Made.stopsAt (made : r.Made w ttl slot) (port : UInt16) :
    StopsAt (r.talk ttl port) (failure? r.ending) := by
  exact StopsAt.append (DrainTalk.stopsAt made) (r.session.unfailed_shot ttl port r.now
    (.inr ⟨r.cause, rfl⟩))

end Rebuff

namespace Rebuffed

theorem passed (h : Rebuffed w ttl slot port s rebuffs talk s') :
    ∀ r ∈ rebuffs, r.passed = true := by
  induction h with
  | none => exact List.forall_mem_nil _
  | more _ here _ ih => exact List.forall_mem_cons.mpr ⟨here, ih⟩

theorem unfailed (h : Rebuffed w ttl slot port s rebuffs talk s') : Unfailed talk := by
  induction h with
  | none => exact List.forall_mem_nil _
  | more made passed _ ih =>
    have here := made.stopsAt port
    rw [Rebuff.unfailed_of_passed passed] at here
    exact ih.append here.unfailed

theorem ofLaunch (h : Rebuffed w ttl slot port s rebuffs talk s') :
    ∀ x ∈ talk, x.ofLaunch = true := by
  induction h with
  | none => exact List.forall_mem_nil _
  | more made _ _ ih => exact List.forall_mem_append.mpr ⟨ih, made.ofLaunch⟩

theorem unaccepted (h : Rebuffed w ttl slot port s rebuffs talk s') :
    talk.countP Exchange.accepts = 0 := by
  induction h with
  | none => rfl
  | more made _ _ ih => rw [List.countP_append, ih, made.unaccepted]

end Rebuffed

end Rebuff

namespace LaunchTalk
variable {w : World σ} {ttl : UInt8} {slot : Slot} {port : UInt16} {attempts : Nat}
variable {s : Session} {rebuffs : List Rebuff} {talk : List Exchange}
variable {result : EStateM.Result Failure Session Launch}

theorem bounded (h : LaunchTalk w ttl slot port attempts s rebuffs talk result) :
    rebuffs.length ≤ attempts := by
  cases h with
  | refused _ all => exact Nat.le_of_eq all
  | unsent _ few _ => exact Nat.le_of_lt few
  | sent _ few => exact Nat.le_of_lt few
  | undrained _ few _ _ =>
    rw [List.length_append]
    exact few
  | ended _ few _ _ _ =>
    rw [List.length_append]
    exact few

theorem ofLaunch (h : LaunchTalk w ttl slot port attempts s rebuffs talk result) :
    ∀ x ∈ talk, x.ofLaunch = true := by
  cases h with
  | refused before _ => exact before.ofLaunch
  | unsent before _ _ =>
    exact List.forall_mem_append.mpr ⟨Session.ofLaunch_shot _ _ _ _ _, before.ofLaunch⟩
  | sent before _ =>
    exact List.forall_mem_append.mpr ⟨Session.ofLaunch_shot _ _ _ _ _, before.ofLaunch⟩
  | undrained before _ made _ =>
    exact List.forall_mem_append.mpr ⟨made.ofLaunch, before.ofLaunch⟩
  | ended before _ made _ _ =>
    exact List.forall_mem_append.mpr ⟨made.ofLaunch, before.ofLaunch⟩

/-- A datagram is accepted only if the probe is sent, and then one is. -/
theorem accepted (h : LaunchTalk w ttl slot port attempts s rebuffs talk result) :
    talk.countP Exchange.accepts = if answer? result = some .sent then 1 else 0 := by
  cases h with
  | refused before _ => exact before.unaccepted
  | unsent before _ _ =>
    rw [List.countP_append, before.unaccepted]
    rfl
  | sent before _ =>
    rw [List.countP_append, before.unaccepted]
    rfl
  | undrained before _ made _ =>
    rw [List.countP_append, before.unaccepted, made.unaccepted]
    rfl
  | ended before _ made _ _ =>
    rw [List.countP_append, before.unaccepted, made.unaccepted]
    rfl

theorem stopsAt (h : LaunchTalk w ttl slot port attempts s rebuffs talk result) :
    StopsAt talk (failure? result) := by
  cases h with
  | refused before _ => exact .answered before.unfailed
  | unsent before _ other =>
    refine .failed (Exchange.failure?_send other) ?_
    exact List.forall_mem_cons.mpr ⟨rfl, before.unfailed⟩
  | sent before _ =>
    exact .answered ((Session.unfailed_shot _ _ _ _ (.inl rfl)).append before.unfailed)
  | undrained before _ made failed =>
    have last := made.stopsAt port
    rw [failed] at last
    exact last.append before.unfailed
  | ended before _ made ending _ =>
    have last := made.stopsAt port
    rw [ending] at last
    exact last.append before.unfailed

theorem sent_iff (h : LaunchTalk w ttl slot port attempts s rebuffs talk result) :
    answer? result = some .sent ↔ rebuffs.length < attempts ∧
      (∀ r ∈ rebuffs, r.passed = true) ∧ ∀ x ∈ talk, x.isSend = true → x.failure? = none := by
  have stops := h.stopsAt
  cases h with
  | refused before all =>
    refine iff_of_false nofun ?_
    rintro ⟨few, -⟩
    omega
  | @unsent _ _ s' now e before few other =>
    refine iff_of_false nofun ?_
    rintro ⟨-, -, unfailed⟩
    have here := unfailed _ List.mem_cons_self rfl
    rw [Exchange.failure?_send other] at here
    cases here
  | sent before few =>
    exact iff_of_true rfl ⟨few, before.passed, fun x mem _ => stops.unfailed x mem⟩
  | undrained before few made failed =>
    exact iff_of_false nofun fun ⟨_, all, _⟩ => Rebuff.not_all_passed_of_error failed all
  | ended before few made ending terminal =>
    exact iff_of_false nofun fun ⟨_, all, _⟩ => Rebuff.not_all_passed_of_ok ending terminal all

theorem refused_iff (h : LaunchTalk w ttl slot port attempts s rebuffs talk result) :
    answer? result = some .refused ↔
      rebuffs.length = attempts ∧ ∀ r ∈ rebuffs, r.passed = true := by
  cases h with
  | refused before all => exact iff_of_true rfl ⟨all, before.passed⟩
  | unsent _ few _ => exact iff_of_false nofun fun ⟨all, _⟩ => Nat.ne_of_lt few all
  | sent _ few => exact iff_of_false nofun fun ⟨all, _⟩ => Nat.ne_of_lt few all
  | undrained _ _ _ failed =>
    exact iff_of_false nofun fun ⟨_, all⟩ => Rebuff.not_all_passed_of_error failed all
  | ended _ _ _ ending terminal =>
    exact iff_of_false nofun fun ⟨_, all⟩ => Rebuff.not_all_passed_of_ok ending terminal all

/-- A drain that ends the trace ends the attempts. -/
theorem ended_of_mem (h : LaunchTalk w ttl slot port attempts s rebuffs talk result) {r : Rebuff}
    {outcome : DrainOutcome} {s' : Session} (mem : r ∈ rebuffs)
    (ending : r.ending = .ok outcome s') (terminal : outcome.ends = true) :
    answer? result = some (.ended outcome) := by
  have not_passed : r.passed = false := by rw [Rebuff.passed_of_ok ending, terminal, Bool.not_true]
  have last {rebuffs talk s''} (before : Rebuffed w ttl slot port s rebuffs talk s'') :
      r ∉ rebuffs := by
    intro mem
    rw [before.passed r mem] at not_passed
    cases not_passed
  cases h with
  | refused before _ => exact absurd mem (last before)
  | unsent before _ _ => exact absurd mem (last before)
  | sent before _ => exact absurd mem (last before)
  | undrained before _ _ failed =>
    rw [List.mem_append, or_iff_right (last before), List.mem_singleton] at mem
    rw [mem, failed] at ending
    cases ending
  | ended before _ _ ending' _ =>
    rw [List.mem_append, or_iff_right (last before), List.mem_singleton] at mem
    rw [mem, ending'] at ending
    cases ending
    rfl

theorem not_mem (h : LaunchTalk w ttl slot port attempts s rebuffs talk result) {x : Exchange}
    (other : x.ofLaunch = false) : x ∉ talk := by
  intro mem
  rw [h.ofLaunch x mem] at other
  cases other

/-- Whether a datagram has been accepted does not depend on what is exchanged later. -/
theorem accepted_append (h : LaunchTalk w ttl slot port attempts s rebuffs talk result)
    {later : List Exchange} (unsent : ∀ x ∈ later, x.isSend = false) :
    (later ++ talk).countP Exchange.accepts =
      if rebuffs.length < attempts ∧ (∀ r ∈ rebuffs, r.passed = true) ∧
        ∀ x ∈ later ++ talk, x.isSend = true → x.failure? = none then 1 else 0 := by
  have unaccepted := Exchange.countP_accepts_eq_zero unsent
  have unfailed : ∀ x ∈ later, x.isSend = true → x.failure? = none := by
    intro x mem sends
    rw [unsent x mem] at sends
    cases sends
  rw [List.countP_append, unaccepted, Nat.zero_add, h.accepted]
  have same : (∀ x ∈ talk, x.isSend = true → x.failure? = none) ↔
      ∀ x ∈ later ++ talk, x.isSend = true → x.failure? = none :=
    (and_iff_right unfailed).symm.trans List.forall_mem_append.symm
  simp only [h.sent_iff, same]

end LaunchTalk

namespace CollectTalk
variable {w : World σ} {ttl : UInt8} {s : Session} {talk : List Exchange}
variable {r : EStateM.Result Failure Session ProbeOutcome}

theorem stopsAt (h : CollectTalk w ttl s talk r) : StopsAt talk (failure? r) := by
  cases h with
  | unawaited => exact .failed rfl (List.forall_mem_nil _)
  | unanswered => exact .failed rfl (List.forall_mem_singleton.mpr rfl)
  | replied => exact .answered (by simp [Unfailed, Exchange.failure?])
  | undrained drains => exact drains.stopsAt.append (by simp [Unfailed, Exchange.failure?])
  | drained drains => exact drains.stopsAt.append (by simp [Unfailed, Exchange.failure?])

theorem not_isSend (h : CollectTalk w ttl s talk r) : ∀ x ∈ talk, x.isSend = false := by
  cases h with
  | unawaited => simp [Exchange.isSend]
  | unanswered => simp [Exchange.isSend]
  | replied => simp [Exchange.isSend]
  | undrained drains =>
    exact List.forall_mem_append.mpr
      ⟨fun x mem => x.isSend_of_ofDrain (drains.ofDrain x mem), by simp [Exchange.isSend]⟩
  | drained drains =>
    exact List.forall_mem_append.mpr
      ⟨fun x mem => x.isSend_of_ofDrain (drains.ofDrain x mem), by simp [Exchange.isSend]⟩

theorem replied_iff (h : CollectTalk w ttl s talk r) :
    answer? r = some .replyReceived ↔ ∃ size, .receiveReply (.ok (some size)) ∈ talk := by
  cases h with
  | unawaited => simp [answer?]
  | unanswered => simp [answer?]
  | replied => simp [answer?]
  | @undrained _ talk _ _ drains =>
    have unread (size : Nat) : .receiveReply (.ok (some size)) ∉ talk := drains.not_mem rfl
    simp [answer?, unread]
  | @drained _ talk _ _ drains =>
    have unread (size : Nat) : .receiveReply (.ok (some size)) ∉ talk := drains.not_mem rfl
    simp [answer?, unread]

theorem count_replied (h : CollectTalk w ttl s talk r) :
    talk.count (.event (.replyReceived ttl)) =
      if answer? r = some .replyReceived then 1 else 0 := by
  cases h with
  | unawaited => simp [answer?]
  | unanswered => simp [answer?]
  | replied => simp [answer?]
  | undrained drains =>
    have unsaid := drains.not_mem (x := .event (.replyReceived ttl)) rfl
    simp [answer?, List.count_eq_zero.mpr unsaid]
  | drained drains =>
    have unsaid := drains.not_mem (x := .event (.replyReceived ttl)) rfl
    simp [answer?, List.count_eq_zero.mpr unsaid]

/-- A probe on its way is not given up any more. -/
theorem not_mem_sendFailed (h : CollectTalk w ttl s talk r) :
    .event (.sendFailed ttl) ∉ talk ∧ answer? r ≠ some .sendFailed := by
  cases h with
  | unawaited => simp [answer?]
  | unanswered => simp [answer?]
  | replied => simp [answer?]
  | undrained drains => simp [answer?, drains.not_mem (x := .event (.sendFailed ttl)) rfl]
  | drained drains => simp [answer?, drains.not_mem (x := .event (.sendFailed ttl)) rfl]

end CollectTalk

/-- What a conversation about one probe comes to. -/
structure Protocol (ttl : UInt8) (rebuffs : List Rebuff) (past : List Exchange)
    (result : EStateM.Result Failure Session ProbeOutcome) : Prop where
  bounded : rebuffs.length ≤ 10
  /-- One datagram is accepted if fewer than ten were refused, no drain among them failed or
  ended the trace and no other attempt to send failed. Otherwise none is. -/
  accepted : past.countP Exchange.accepts =
    if rebuffs.length < 10 ∧ (∀ r ∈ rebuffs, r.passed = true) ∧
        ∀ x ∈ past, x.isSend = true → x.failure? = none then 1 else 0
  /-- A drain after a refused datagram may end the trace. -/
  ended : ∀ rebuff ∈ rebuffs, ∀ outcome s, rebuff.ending = .ok outcome s →
    outcome.ends = true → answer? result = some (.decoded outcome)
  refused : answer? result = some .sendFailed ↔
    rebuffs.length = 10 ∧ ∀ r ∈ rebuffs, r.passed = true
  replied : answer? result = some .replyReceived ↔ ∃ size, .receiveReply (.ok (some size)) ∈ past
  refusedOnce : past.count (.event (.sendFailed ttl)) =
    if answer? result = some .sendFailed then 1 else 0
  repliedOnce : past.count (.event (.replyReceived ttl)) =
    if answer? result = some .replyReceived then 1 else 0
  stopsAt : StopsAt past (failure? result)

namespace Conversation
variable {w : World σ} {ttl : UInt8} {slot : Slot} {port : UInt16} {s : Session}
variable {rebuffs : List Rebuff} {past : List Exchange}
variable {r : EStateM.Result Failure Session ProbeOutcome}

theorem protocol (h : Conversation w ttl slot port s rebuffs past r) :
    Protocol ttl rebuffs past r := by
  cases h with
  | failed launch =>
    constructor
    case bounded => exact launch.bounded
    case accepted => exact launch.accepted_append (List.forall_mem_nil _)
    case ended =>
      intro rebuff mem outcome s' ending terminal
      cases launch.ended_of_mem mem ending terminal
    case refused => exact iff_of_false nofun fun all => nomatch launch.refused_iff.mpr all
    case replied => exact iff_of_false nofun fun ⟨_, mem⟩ => launch.not_mem rfl mem
    case refusedOnce => exact List.count_eq_zero.mpr (launch.not_mem rfl)
    case repliedOnce => exact List.count_eq_zero.mpr (launch.not_mem rfl)
    case stopsAt => exact launch.stopsAt
  | ended launch =>
    constructor
    case bounded => exact launch.bounded
    case accepted => exact launch.accepted_append (List.forall_mem_nil _)
    case ended =>
      intro rebuff mem outcome s' ending terminal
      cases launch.ended_of_mem mem ending terminal
      rfl
    case refused => exact iff_of_false nofun fun all => nomatch launch.refused_iff.mpr all
    case replied => exact iff_of_false nofun fun ⟨_, mem⟩ => launch.not_mem rfl mem
    case refusedOnce => exact List.count_eq_zero.mpr (launch.not_mem rfl)
    case repliedOnce => exact List.count_eq_zero.mpr (launch.not_mem rfl)
    case stopsAt => exact launch.stopsAt
  | refused launch =>
    constructor
    case bounded => exact launch.bounded
    case accepted => exact launch.accepted_append (List.forall_mem_singleton.mpr rfl)
    case ended =>
      intro rebuff mem outcome s' ending terminal
      cases launch.ended_of_mem mem ending terminal
    case refused => exact iff_of_true rfl (launch.refused_iff.mp rfl)
    case replied =>
      refine iff_of_false nofun ?_
      rintro ⟨size, mem⟩
      exact launch.not_mem rfl ((List.mem_cons.mp mem).resolve_left nofun)
    case refusedOnce =>
      rw [List.count_cons_self, List.count_eq_zero.mpr (launch.not_mem rfl)]
      rfl
    case repliedOnce =>
      have other : Exchange.event (.sendFailed ttl) ≠ .event (.replyReceived ttl) := nofun
      rw [List.count_cons_of_ne other, List.count_eq_zero.mpr (launch.not_mem rfl)]
      rfl
    case stopsAt => exact .answered (List.forall_mem_cons.mpr ⟨rfl, launch.stopsAt.unfailed⟩)
  | sent launch collect =>
    obtain ⟨unsaid, others⟩ := collect.not_mem_sendFailed
    constructor
    case bounded => exact launch.bounded
    case accepted => exact launch.accepted_append collect.not_isSend
    case ended =>
      intro rebuff mem outcome s' ending terminal
      cases launch.ended_of_mem mem ending terminal
    case refused => exact iff_of_false others fun all => nomatch launch.refused_iff.mpr all
    case replied =>
      rw [collect.replied_iff]
      refine exists_congr fun size => ?_
      rw [List.mem_append, or_iff_left (launch.not_mem rfl)]
    case refusedOnce =>
      rw [List.count_append, List.count_eq_zero.mpr unsaid,
        List.count_eq_zero.mpr (launch.not_mem rfl), if_neg others]
    case repliedOnce =>
      rw [List.count_append, collect.count_replied, List.count_eq_zero.mpr (launch.not_mem rfl)]
      rfl
    case stopsAt => exact collect.stopsAt.append launch.stopsAt.unfailed

end Conversation

namespace Refusals
open Simulation

def world : World ScriptedNetwork := scriptedNetwork.attendedBy (Audience.silent _)

def tracing (script : List ScriptEntry) : Tracing ScriptedNetwork :=
  ⟨Session.start SessionConfig.default, ScriptedNetwork.start ⟨1000000000⟩ script fun _ => none⟩

def refused : ScriptEntry := { ScriptEntry.empty with refusal := some (.send Errno.wouldBlock) }

/-- The refusal of a datagram is explained by an error. -/
def explained (code : ErrorCode) (info : UInt32) : ScriptEntry :=
  { refused with notes := [.notification 0 .sent (.fixed []) (some ⟨.local, code, 0, 0, info, none⟩)
      none] }

def talk (script : List ScriptEntry) : List Exchange :=
  (world.transcribed.sendProbe 3).transcript (tracing script)

def result (script : List ScriptEntry) : EStateM.Result Failure Session ProbeOutcome :=
  sessionResult (world.sendProbe 3 (tracing script))

/-- A refused datagram of `length` bytes and the empty error queue after it. -/
def rebuff (length : Nat) : List Exchange :=
  [.receiveNotification (.ok none),
    .send ⟨.ofSend 3 ⟨1000000000⟩, length⟩ 44444
      (.error (.probeFailed (.send Errno.wouldBlock ⟨ScriptedNetwork.target, 44444, 0⟩))),
    .now ⟨1000000000⟩]

/-- The router in front of the host takes no more than 1400 bytes. -/
def lowered : List ScriptEntry := [explained .messageTooBig 1400]

end Refusals

end HopTrace
