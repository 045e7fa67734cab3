import HopTrace.Proofs.Decoding
import HopTrace.Proofs.LastRecorded
import Mathlib.Data.List.ReduceOption
import Mathlib.Data.List.Rotate

/-!
# The history as a ring

Requests name a slot by its number. A number outside of the array names no slot, and then the
request is refused, so that nothing can go wrong unseen. The numbers that can be had, from the
cursor or for a port, all name one.

Probes that are recorded one after another go around the ring. Each takes the place of the
oldest, which is the one under the cursor, so after a full round the ring holds the latest
sixty-four, in order from the cursor on.
-/
namespace HopTrace

/-! ## Slots by number -/

/-- What can be asked of a history by a client that knows slots by their numbers. -/
inductive HistoryRequest where
  | record (index : Nat) (ttl : UInt8) (sent : Instant)
  | take (index : Nat)
  | clear (index : Nat)
  | advance
  | cursor
  deriving DecidableEq, Repr

/-- The slot of the array with this number, if there is one. -/
def Slot.ofIndex? (index : Nat) : Option Slot :=
  if inside : index < historySize then some ⟨index, inside⟩ else none

namespace HistoryRequest

def index? : HistoryRequest → Option Nat
  | .record index _ _ | .take index | .clear index => some index
  | .advance | .cursor => none

/-- The call that a request makes. There is none if the number is outside of the array. -/
def call? : HistoryRequest → Option HistoryCall
  | .record index ttl sent => (Slot.ofIndex? index).map (.record · ttl sent)
  | .take index => (Slot.ofIndex? index).map .take
  | .clear index => (Slot.ofIndex? index).map .clear
  | .advance => some .advance
  | .cursor => some .cursor

/-- The calls that requests make, none of which may be refused. -/
def calls? (requests : List HistoryRequest) : Option (List HistoryCall) := requests.mapM call?

end HistoryRequest

/-- The cursor has shown this number, or a port has it. -/
def GivenOut (base : UInt16) (log : List HistoryExchange) (index : Nat) : Prop :=
  ∃ slot : Slot, slot.val = index ∧
    (⟨.cursor, .cursor slot⟩ ∈ log ∨ ∃ port, Slot.ofPort port base = some slot)

/-- Every request names its slot by a number that was given out before. -/
inductive Entitled (base : UInt16) : List HistoryRequest → Prop
  | nothing : Entitled base []
  | more {earlier : List HistoryRequest} {request : HistoryRequest} :
    Entitled base earlier →
    (∀ calls, HistoryRequest.calls? earlier = some calls → ∀ index ∈ request.index?,
      GivenOut base (History.empty.log calls) index) →
    Entitled base (earlier ++ [request])

theorem Slot.exists_ofIndex?_iff {index : Nat} :
    (∃ slot, Slot.ofIndex? index = some slot) ↔ index < historySize := by
  unfold Slot.ofIndex?
  split <;> simp [*]

namespace HistoryRequest
variable {request : HistoryRequest} {requests : List HistoryRequest}

/-- A request is refused just if its number is outside of the array. -/
theorem exists_call?_iff :
    (∃ call, request.call? = some call) ↔ ∀ index ∈ request.index?, index < historySize := by
  cases request with
  | record index ttl sent => simp [call?, index?, ← Slot.exists_ofIndex?_iff]
  | take index => simp [call?, index?, ← Slot.exists_ofIndex?_iff]
  | clear index => simp [call?, index?, ← Slot.exists_ofIndex?_iff]
  | advance => simp [call?, index?]
  | cursor => simp [call?, index?]

theorem calls?_cons_eq_some_iff {calls : List HistoryCall} :
    calls? (request :: requests) = some calls ↔ ∃ call later,
      request.call? = some call ∧ calls? requests = some later ∧ calls = call :: later := by
  unfold calls?
  rw [List.mapM_cons]
  cases request.call? <;> cases requests.mapM call? <;> simp [eq_comm]

theorem exists_calls?_iff : (∃ calls, calls? requests = some calls) ↔
    ∀ request ∈ requests, ∀ index ∈ request.index?, index < historySize := by
  induction requests with
  | nil => simp [calls?]
  | cons request later ih =>
    rw [List.forall_mem_cons, ← exists_call?_iff, ← ih]
    constructor
    · rintro ⟨_, made⟩
      obtain ⟨call, calls, first, rest, -⟩ := calls?_cons_eq_some_iff.mp made
      exact ⟨⟨call, first⟩, calls, rest⟩
    · rintro ⟨⟨call, first⟩, calls, rest⟩
      exact ⟨call :: calls, calls?_cons_eq_some_iff.mpr ⟨call, calls, first, rest, rfl⟩⟩

end HistoryRequest

/-- No number that can be had lies outside of the array. -/
theorem GivenOut.lt {base : UInt16} {log : List HistoryExchange} {index : Nat}
    (given : GivenOut base log index) : index < historySize := by
  obtain ⟨slot, rfl, -⟩ := given
  exact slot.isLt

theorem Entitled.inside {base : UInt16} {requests : List HistoryRequest}
    (h : Entitled base requests) :
    ∀ request ∈ requests, ∀ index ∈ request.index?, index < historySize := by
  induction h with
  | nothing => exact List.forall_mem_nil _
  | more _ given ih =>
    obtain ⟨calls, made⟩ := HistoryRequest.exists_calls?_iff.mpr ih
    refine List.forall_mem_append.mpr ⟨ih, List.forall_mem_singleton.mpr ?_⟩
    intro index named
    exact (given calls made index named).lt

/-! ## Around the ring -/

namespace History

/-- Records a probe under the cursor and moves on. -/
def push (h : History) (probe : ProbeRecord) : History :=
  (h.record h.cursor probe.ttl probe.sent).advance

/-- The history of probes that are recorded one after another. -/
def ofProbes (probes : List ProbeRecord) : History := probes.foldl push empty

/-- What the slots hold, from the cursor on. -/
def round (h : History) : List (Option ProbeRecord) := h.records.toList.rotate h.cursor.val

end History

/-- Writing to a place and moving past it leaves what is written at the end. -/
theorem rotate_set_succ {α : Type} {xs : List α} {i : Nat} (inside : i < xs.length) (x : α) :
    (xs.set i x).rotate (i + 1) = (xs.rotate i).tail ++ [x] := by
  obtain ⟨before, behind, split, reached, written⟩ := @List.exists_of_set _ i x xs inside
  generalize xs[i] = old at split
  subst split reached
  calc ((before ++ old :: behind).set before.length x).rotate (before.length + 1)
      = ((before ++ x :: behind).rotate before.length).rotate 1 := by
        rw [written, List.rotate_rotate]
    _ = behind ++ before ++ [x] := by
        rw [List.rotate_append_length_eq, List.cons_append, List.rotate_cons_succ, List.rotate_zero]
    _ = ((before ++ old :: behind).rotate before.length).tail ++ [x] := by
        rw [List.rotate_append_length_eq, List.cons_append, List.tail_cons]

namespace History

theorem records_push (h : History) (probe : ProbeRecord) :
    (h.push probe).records.toList = h.records.toList.set h.cursor.val (some probe) :=
  Vector.toList_set h.cursor.isLt

/-- A probe that is recorded puts an end to what was under the cursor and comes last. -/
theorem round_push (h : History) (probe : ProbeRecord) :
    (h.push probe).round = h.round.tail ++ [some probe] := by
  have around := List.rotate_mod (h.push probe).records.toList (h.cursor.val + 1)
  have inside : h.cursor.val < h.records.toList.length := by
    rw [Vector.length_toList]
    exact h.cursor.isLt
  rw [Vector.length_toList, records_push, rotate_set_succ inside] at around
  rw [round, records_push]
  exact around

theorem round_ofProbes (probes : List ProbeRecord) :
    (ofProbes probes).round =
      (List.replicate historySize none ++ probes.map some).drop probes.length := by
  induction probes using List.reverseRecOn with
  | nil => simp [ofProbes, round, empty, Slot.first]
  | append_singleton probes probe ih =>
    have step : ofProbes (probes ++ [probe]) = (ofProbes probes).push probe := by
      simp [ofProbes]
    have short : probes.length + 1 ≤
        (List.replicate historySize none ++ probes.map some).length := by
      simp [historySize]
    rw [step, round_push, ih, List.tail_drop, List.map_append, ← List.append_assoc,
      List.length_append, List.length_singleton, List.drop_append_of_le_length short]
    rfl

/-- What the slots hold in order is what they hold from the cursor on, but for where it starts. -/
theorem live_perm_round (h : History) : (h.live.map Prod.snd).Perm h.round.reduceOption := by
  have contents : h.records.toList = (List.finRange historySize).map h.get? := by
    apply List.ext_getElem
    · simp
    · intro i _ _
      simp [get?]
  have listed : h.live.map Prod.snd = h.records.toList.reduceOption := by
    rw [contents, List.reduceOption, List.filterMap_map, live, List.map_filterMap]
    simp [Function.comp_def]
  rw [listed]
  exact ((List.rotate_perm _ _).filterMap _).symm

/-- The last probes that were recorded are live, as many as there are slots, and no others. -/
theorem live_ofProbes (probes : List ProbeRecord) : ((ofProbes probes).live.map Prod.snd).Perm
    (probes.drop (probes.length - historySize)) := by
  have latest : (ofProbes probes).round.reduceOption =
      probes.drop (probes.length - historySize) := by
    rw [round_ofProbes, List.drop_append, List.drop_replicate, List.length_replicate,
      ← List.map_drop, List.reduceOption_append, List.reduceOption_replicate_none, List.nil_append]
    simp [List.reduceOption, List.filterMap_map]
  exact latest ▸ live_perm_round _

/-- After a full round every slot holds one of them, and from the cursor on they are in order. -/
theorem round_ofProbes_of_full {probes : List ProbeRecord} (full : historySize ≤ probes.length) :
    (ofProbes probes).round = (probes.drop (probes.length - historySize)).map some := by
  rw [round_ofProbes, List.drop_append, List.drop_replicate, Nat.sub_eq_zero_of_le full,
    List.replicate_zero, List.nil_append, List.length_replicate, List.map_drop]

end History

/-- The history keeps the last record of each slot, whatever is asked of it by clients that know
the slots from the cursor and from ports. No number lies outside of the array, so nothing is
refused; the slots of the window and its ports name each other; and of the probes that are
recorded around the ring just the last round is live. -/
theorem history_lastRecorded (base : UInt16) :
    (∀ requests, Entitled base requests →
      (∀ request ∈ requests, ∀ index ∈ request.index?, index < 64) ∧
      ∃ calls, HistoryRequest.calls? requests = some calls ∧
        KeepsLast calls (History.empty.log calls) (History.empty.after calls)) ∧
    (∀ slot port, Slot.ofPort port base = some slot ↔ slot.port base = port) ∧
    ∀ probes,
      ((History.ofProbes probes).live.map Prod.snd).Perm
        (probes.drop (probes.length - 64)) ∧
      (64 ≤ probes.length →
        (History.ofProbes probes).round =
          (probes.drop (probes.length - 64)).map some) := by
  refine ⟨?_, fun _ _ => Slot.ofPort_eq_some_iff, ?_⟩
  · intro requests entitled
    obtain ⟨calls, made⟩ := HistoryRequest.exists_calls?_iff.mpr entitled.inside
    exact ⟨entitled.inside, calls, made, History.keepsLast calls⟩
  · intro probes
    exact ⟨History.live_ofProbes probes, History.round_ofProbes_of_full⟩

namespace WrappedWindow

/-- The first slot is shown by the cursor. The tenth is that of port 3, as the window wraps around
after six ports. -/
def requests : List HistoryRequest :=
  [.cursor, .record 0 7 ⟨1000⟩, .record 9 8 ⟨2000⟩, .advance, .record 9 9 ⟨3000⟩, .take 9, .take 9,
    .take 0]

def tenth : Slot := ⟨9, by decide⟩

def calls : List HistoryCall :=
  [.cursor, .record .first 7 ⟨1000⟩, .record tenth 8 ⟨2000⟩, .advance, .record tenth 9 ⟨3000⟩,
    .take tenth, .take tenth, .take .first]

def answers : List HistoryAnswer :=
  [.cursor .first, .done, .done, .done, .done, .taken (some ⟨9, ⟨3000⟩⟩), .taken none,
    .taken (some ⟨7, ⟨1000⟩⟩)]

/-- One probe more than there are slots. -/
def probes : List ProbeRecord := (List.range 65).map fun i => ⟨1, ⟨1000 + i⟩⟩

theorem entitled_of_named {later : List HistoryRequest}
    (named : ∀ request ∈ later, ∀ index ∈ request.index?, index = 0 ∨ index = 9) :
    Entitled 65530 (.cursor :: later) := by
  induction later using List.reverseRecOn with
  | nil => exact @Entitled.more _ [] .cursor .nothing nofun
  | append_singleton later request ih =>
    rw [List.forall_mem_append, List.forall_mem_singleton] at named
    refine .more (ih named.1) ?_
    intro calls made index m
    rcases named.2 index m with rfl | rfl
    · refine ⟨.first, rfl, .inl ?_⟩
      obtain ⟨call, rest, first, -, rfl⟩ := HistoryRequest.calls?_cons_eq_some_iff.mp made
      obtain rfl : .cursor = call := Option.some.inj first
      exact List.mem_cons_self
    · exact ⟨tenth, rfl, .inr ⟨3, by decide⟩⟩

theorem entitled : Entitled 65530 requests := entitled_of_named (by decide)

end WrappedWindow

theorem history_lastRecorded_wrappedWindow :
    Entitled 65530 WrappedWindow.requests ∧
    KeepsLast WrappedWindow.calls (History.empty.log WrappedWindow.calls)
      (History.empty.after WrappedWindow.calls) ∧
    (History.empty.log WrappedWindow.calls).map HistoryExchange.answer = WrappedWindow.answers ∧
    WrappedWindow.tenth.port 65530 = 3 ∧
    64 ≤ WrappedWindow.probes.length ∧
    (History.ofProbes WrappedWindow.probes).round = (WrappedWindow.probes.drop 1).map some := by
  obtain ⟨kept, ports, live⟩ := history_lastRecorded 65530
  have full : 64 ≤ WrappedWindow.probes.length := by decide
  obtain ⟨-, calls, made, keeps⟩ := kept WrappedWindow.requests WrappedWindow.entitled
  obtain rfl : WrappedWindow.calls = calls := Option.some.inj (Eq.trans (by decide) made)
  exact ⟨WrappedWindow.entitled, keeps, by decide, (ports _ 3).mp (by decide), full,
    (live WrappedWindow.probes).2 full⟩

end HopTrace
