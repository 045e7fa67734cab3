import HopTrace.Proofs.PayloadBuffer
import Mathlib.Data.List.Basic

/-!
# The last record of each slot

All that a history keeps is, for each slot, the record that was written there last, unless the
slot was emptied since. What is done to one slot does not show in another, and no record is
handed out twice.

What a call leaves in a slot is a matter of this slot alone. That is said once, in
`History.get?_answer`, and whatever holds after many calls follows from it by induction from
the last call.
-/
namespace HopTrace

/-! ## Calls and their answers -/

namespace HistoryCall

/-- The slot that a call works on. -/
def slot? : HistoryCall → Option Slot
  | .record slot _ _ | .take slot | .clear slot => some slot
  | .advance | .cursor => none

/-- What a call leaves in a slot, given what the slot held. -/
def leaves (slot : Slot) (held : Option ProbeRecord) : HistoryCall → Option ProbeRecord
  | .record other ttl sent => if other = slot then some ⟨ttl, sent⟩ else held
  | .take other | .clear other => if other = slot then none else held
  | .advance | .cursor => held

/-- What a call records in a slot. -/
def recorded? (slot : Slot) : HistoryCall → Option ProbeRecord
  | .record other ttl sent => if other = slot then some ⟨ttl, sent⟩ else none
  | _ => none

variable {slot : Slot} {held : Option ProbeRecord} {call : HistoryCall}

theorem slot?_eq_some_iff : call.slot? = some slot ↔
    (∃ ttl sent, call = .record slot ttl sent) ∨ call = .take slot ∨ call = .clear slot := by
  cases call <;> simp [slot?]

theorem leaves_other (other : call.slot? ≠ some slot) : call.leaves slot held = held := by
  cases call with
  | record s ttl sent => exact if_neg (mt (congrArg some) other)
  | take s => exact if_neg (mt (congrArg some) other)
  | clear s => exact if_neg (mt (congrArg some) other)
  | advance => rfl
  | cursor => rfl

/-- A slot holds a record after a call if the call wrote it, or left the slot alone. -/
theorem leaves_eq_some_iff {probe : ProbeRecord} : call.leaves slot held = some probe ↔
    call = .record slot probe.ttl probe.sent ∨ call.slot? ≠ some slot ∧ held = some probe := by
  by_cases works : call.slot? = some slot
  · rw [or_iff_left fun h => h.1 works]
    obtain ⟨ttl, sent, rfl⟩ | rfl | rfl := slot?_eq_some_iff.mp works
    · obtain ⟨ttl', sent'⟩ := probe
      simp [leaves]
    · simp [leaves]
    · simp [leaves]
  · have unwritten : call ≠ .record slot probe.ttl probe.sent := by
      rintro rfl
      exact works rfl
    rw [leaves_other works, or_iff_right unwritten, and_iff_right works]

end HistoryCall

/-- A call and its answer. -/
structure HistoryExchange where
  call : HistoryCall
  answer : HistoryAnswer
  deriving DecidableEq, Repr

/-- What a call returns of the records of a slot. -/
def HistoryExchange.returned? (slot : Slot) : HistoryExchange → Option ProbeRecord
  | ⟨.take other, .taken found⟩ => if other = slot then found else none
  | _ => none

/-- The record was written to the slot, and nothing was done to the slot since. -/
def LastRecorded (slot : Slot) (probe : ProbeRecord) (calls : List HistoryCall) : Prop :=
  ∃ before since, calls = before ++ .record slot probe.ttl probe.sent :: since ∧
    ∀ call ∈ since, call.slot? ≠ some slot

theorem not_lastRecorded_nil (slot : Slot) (probe : ProbeRecord) : ¬LastRecorded slot probe [] := by
  rintro ⟨before, since, split, -⟩
  exact List.append_ne_nil_of_right_ne_nil before (List.cons_ne_nil _ since) split.symm

theorem lastRecorded_concat {slot : Slot} {probe : ProbeRecord} {calls : List HistoryCall}
    {call : HistoryCall} : LastRecorded slot probe (calls ++ [call]) ↔
      call = .record slot probe.ttl probe.sent ∨
        call.slot? ≠ some slot ∧ LastRecorded slot probe calls := by
  constructor
  · rintro ⟨before, since, split, quiet⟩
    rcases List.eq_nil_or_concat since with rfl | ⟨since, last, rfl⟩
    · left
      exact List.head_eq_of_cons_eq (List.append_inj' split rfl).2
    · right
      rw [List.concat_eq_append] at split quiet
      rw [← List.cons_append, ← List.append_assoc] at split
      obtain ⟨rfl, same⟩ := List.append_inj' split rfl
      obtain rfl := List.head_eq_of_cons_eq same
      exact ⟨quiet call (by simp), before, since, rfl,
        fun call mem => quiet call (List.mem_append_left _ mem)⟩
  · rintro (rfl | ⟨other, before, since, rfl, quiet⟩)
    · exact ⟨calls, [], rfl, List.forall_mem_nil _⟩
    · refine ⟨before, since ++ [call], by simp, ?_⟩
      simpa [or_imp, forall_and] using ⟨quiet, other⟩

namespace History

/-- The history after some calls. -/
def after (h : History) (calls : List HistoryCall) : History :=
  calls.foldl (fun h call => (h.answer call).2) h

/-- The calls with their answers, the latest last. -/
def log (h : History) : List HistoryCall → List HistoryExchange
  | [] => []
  | call :: later => ⟨call, (h.answer call).1⟩ :: (h.answer call).2.log later

theorem after_concat (h : History) (calls : List HistoryCall) (call : HistoryCall) :
    h.after (calls ++ [call]) = ((h.after calls).answer call).2 := by
  simp [after]

theorem log_concat (h : History) (calls : List HistoryCall) (call : HistoryCall) :
    h.log (calls ++ [call]) = h.log calls ++ [⟨call, ((h.after calls).answer call).1⟩] := by
  induction calls generalizing h with
  | nil => rfl
  | cons first later ih =>
    rw [List.cons_append, log, log, ih]
    rfl

theorem map_call_log (h : History) (calls : List HistoryCall) :
    (h.log calls).map HistoryExchange.call = calls := by
  induction calls generalizing h with
  | nil => rfl
  | cons call later ih => rw [log, List.map_cons, ih]

/-! ## What one call does -/

section Answer
variable {h h' : History} {call : HistoryCall} {slot : Slot}

theorem cursor_answer (h : History) (call : HistoryCall) :
    (h.answer call).2.cursor = if call = .advance then h.cursor.next else h.cursor := by
  cases call <;> rfl

theorem get?_answer (h : History) (call : HistoryCall) (slot : Slot) :
    (h.answer call).2.get? slot = call.leaves slot (h.get? slot) := by
  cases call with
  | record other ttl sent => exact h.get?_record other slot ttl sent
  | take other => exact h.get?_clear other slot
  | clear other => exact h.get?_clear other slot
  | advance => rfl
  | cursor => rfl

/-- The answer to a call on a slot depends on nothing but what the slot holds. -/
theorem answer_eq_of_get?_eq (works : call.slot? = some slot)
    (same : h.get? slot = h'.get? slot) : (h.answer call).1 = (h'.answer call).1 := by
  obtain ⟨ttl, sent, rfl⟩ | rfl | rfl := HistoryCall.slot?_eq_some_iff.mp works
  · rfl
  · exact congrArg HistoryAnswer.taken same
  · rfl

theorem returned?_other (other : call.slot? ≠ some slot) (answer : HistoryAnswer) :
    (HistoryExchange.mk call answer).returned? slot = none := by
  unfold HistoryExchange.returned?
  split
  · next taken =>
    injection taken with taken
    subst taken
    exact if_neg (mt (congrArg some) other)
  · rfl

/-- A call returns what the slot held, leaves it there, or forgets it. -/
theorem returned_sublist_answer (h : History) (call : HistoryCall) (slot : Slot) :
    (((HistoryExchange.mk call (h.answer call).1).returned? slot).toList ++
        (call.leaves slot (h.get? slot)).toList).Sublist
      ((h.get? slot).toList ++ (call.recorded? slot).toList) := by
  by_cases works : call.slot? = some slot
  · obtain ⟨ttl, sent, rfl⟩ | rfl | rfl := HistoryCall.slot?_eq_some_iff.mp works
    · simp [HistoryExchange.returned?, HistoryCall.leaves, HistoryCall.recorded?]
    · simp [answer, take, HistoryExchange.returned?, HistoryCall.leaves, HistoryCall.recorded?]
    · simp [HistoryExchange.returned?, HistoryCall.leaves]
  · rw [returned?_other works, HistoryCall.leaves_other works]
    exact List.sublist_append_left _ _

end Answer

/-! ## What many calls do -/

section Calls
variable {calls : List HistoryCall} {slot : Slot}

theorem cursor_after (calls : List HistoryCall) :
    (empty.after calls).cursor.val = calls.count .advance % historySize := by
  induction calls using List.reverseRecOn with
  | nil => rfl
  | append_singleton calls call ih =>
    rw [after_concat, cursor_answer, List.count_append, List.count_singleton]
    by_cases moves : call = .advance
    · subst moves
      rw [if_pos rfl, if_pos (beq_self_eq_true _), ← Nat.mod_add_mod, ← ih]
      rfl
    · rw [if_neg moves, if_neg (by simpa using moves), Nat.add_zero, ih]

/-- A slot holds what was recorded there last, unless it was emptied since. -/
theorem get?_after_eq_some_iff {probe : ProbeRecord} :
    (empty.after calls).get? slot = some probe ↔ LastRecorded slot probe calls := by
  induction calls using List.reverseRecOn with
  | nil =>
    rw [after, List.foldl_nil, get?_empty]
    exact iff_of_false nofun (not_lastRecorded_nil slot probe)
  | append_singleton calls call ih =>
    rw [after_concat, get?_answer, HistoryCall.leaves_eq_some_iff, ih, lastRecorded_concat]

/-- An answer is that of the history after the calls before it. -/
theorem answer_of_prefix {earlier : List HistoryExchange} {x : HistoryExchange}
    (made : earlier ++ [x] <+: empty.log calls) :
    x.answer = ((empty.after (earlier.map HistoryExchange.call)).answer x.call).1 := by
  induction calls using List.reverseRecOn with
  | nil => simp [log] at made
  | append_singleton calls call ih =>
    rw [log_concat, List.prefix_concat_iff] at made
    rcases made with last | made
    · obtain ⟨rfl, same⟩ := List.append_inj' last rfl
      obtain rfl := List.head_eq_of_cons_eq same
      rw [map_call_log]
    · exact ih made

/-- What the takes return and what is still there is among what was recorded, in order. -/
theorem returned_sublist (calls : List HistoryCall) (slot : Slot) :
    ((empty.log calls).filterMap (HistoryExchange.returned? slot) ++
        ((empty.after calls).get? slot).toList).Sublist
      (calls.filterMap (HistoryCall.recorded? slot)) := by
  simp only [List.filterMap_eq_flatMap_toList]
  -- What is still there stands behind what was returned, as a later take may return it.
  induction calls using List.reverseRecOn with
  | nil => simp [log, after]
  | append_singleton calls call ih =>
    rw [log_concat, after_concat, get?_answer, List.flatMap_append, List.flatMap_append,
      List.flatMap_singleton, List.flatMap_singleton, List.append_assoc]
    have step := returned_sublist_answer (empty.after calls) call slot
    refine ((List.Sublist.refl _).append step).trans ?_
    rw [← List.append_assoc]
    exact ih.append (List.Sublist.refl _)

/-- The calls on a slot are answered as if there were no others. -/
theorem log_filter {h h' : History} (same : h.get? slot = h'.get? slot) :
    h.log (calls.filter (·.slot? = some slot)) =
      (h'.log calls).filter (·.call.slot? = some slot) := by
  -- The two histories drift apart, but never in this slot.
  induction calls generalizing h h' with
  | nil => rfl
  | cons call later ih =>
    by_cases works : call.slot? = some slot
    · have kept : (h.answer call).2.get? slot = (h'.answer call).2.get? slot := by
        rw [get?_answer, get?_answer, same]
      rw [List.filter_cons_of_pos (by simpa using works), log, log,
        List.filter_cons_of_pos (by simpa using works), ih kept, answer_eq_of_get?_eq works same]
    · have kept : h.get? slot = (h'.answer call).2.get? slot := by
        rw [get?_answer, HistoryCall.leaves_other works, same]
      rw [List.filter_cons_of_neg (by simpa using works), log,
        List.filter_cons_of_neg (by simpa using works), ih kept]

end Calls

end History

/-- What calls make of an empty history, and how they are answered. -/
structure KeepsLast (calls : List HistoryCall) (log : List HistoryExchange) (h : History) :
    Prop where
  asked : log.map HistoryExchange.call = calls
  cursor : h.cursor.val = calls.count .advance % 64
  shown : ∀ earlier answer, earlier ++ [⟨.cursor, answer⟩] <+: log → ∃ slot,
    answer = .cursor slot ∧
      slot.val = (earlier.map HistoryExchange.call).count .advance % 64
  held : ∀ slot probe, h.get? slot = some probe ↔ LastRecorded slot probe calls
  taken : ∀ earlier slot answer, earlier ++ [⟨.take slot, answer⟩] <+: log → ∃ found,
    answer = .taken found ∧
      ∀ probe, found = some probe ↔ LastRecorded slot probe (earlier.map HistoryExchange.call)
  /-- What the takes of a slot return is among what was recorded there, in the same order. -/
  once : ∀ slot, (log.filterMap (HistoryExchange.returned? slot)).Sublist
    (calls.filterMap (HistoryCall.recorded? slot))
  /-- The calls on a slot are answered as if there were no others. -/
  apart : ∀ slot, History.empty.log (calls.filter (·.slot? = some slot)) =
    log.filter (·.call.slot? = some slot)

theorem History.keepsLast (calls : List HistoryCall) :
    KeepsLast calls (empty.log calls) (empty.after calls) where
  asked := map_call_log _ _
  cursor := cursor_after _
  shown _ _ made := ⟨_, answer_of_prefix made, cursor_after _⟩
  held _ _ := get?_after_eq_some_iff
  taken _ _ _ made := ⟨_, answer_of_prefix made, fun _ => get?_after_eq_some_iff⟩
  once slot := (List.sublist_append_left _ _).trans (returned_sublist calls slot)
  apart _ := log_filter rfl

end HopTrace
