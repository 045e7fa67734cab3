import HopTrace.Proofs.HeaderTime
import HopTrace.Proofs.HopCounts
import HopTrace.Proofs.Published

/-!
# What a session learns from notifications

A notification empties the slot its port points to, lowers the path MTU if a router says
that it was too big, and leaves hop counts if it is the first refusal. It says for itself,
without the session, whether the trace goes on after it.

What a whole sequence of notifications leaves behind does not depend on the order in which
they are read, except for the hop counts: the path MTU is the least that any of them tells,
and a slot is empty if any of them points to it.
-/
namespace HopTrace

/-- The trace does not go on after the error. -/
def ExtendedError.isTerminal (e : ExtendedError) : Bool :=
  match e.code with
  | .timedOut | .messageTooBig => false
  | .hostUnreachable => !e.isTimeExceeded
  | .connectionRefused | .protocol | .netUnreachable | .accessDenied | .other _ => true

section Classify
variable (e : ExtendedError) (sentHops backHops : Option UInt8) (ttl : UInt8)

theorem isTerminal_classify :
    (classify e sentHops backHops ttl).isTerminal = e.isTerminal := by
  unfold classify ExtendedError.isTerminal
  cases e.code with
  | hostUnreachable => cases e.isTimeExceeded <;> rfl
  | _ => rfl

theorem pathMtu?_classify :
    (classify e sentHops backHops ttl).pathMtu? =
      if e.code = .messageTooBig then some e.info else none := by
  unfold classify
  cases e.code with
  | hostUnreachable => cases e.isTimeExceeded <;> rfl
  | _ => rfl

/-- What a drain makes of the status of an error. -/
theorem ofStatus?_classify :
    DrainOutcome.ofStatus? (classify e sentHops backHops ttl) =
      if e.isTerminal then
        some (if e.code = .connectionRefused then .reached else .hardError)
      else none := by
  unfold DrainOutcome.ofStatus?
  rw [isTerminal_classify]
  by_cases refused : e.code = .connectionRefused
  · have terminal : e.isTerminal = true := by
      unfold ExtendedError.isTerminal
      rw [refused]
    rw [if_pos ((classify_eq_reached_iff e _ _ ttl).mpr refused), terminal, if_pos refused]
    rfl
  · have going : classify e sentHops backHops ttl ≠ .reached := by
      intro reached
      exact refused ((classify_eq_reached_iff e _ _ ttl).mp reached)
    rw [if_neg going, if_neg refused]

end Classify

namespace Notification

/-- A drain does not go on after the notification. -/
def stops (n : Notification) : Bool := n.error.all (·.isTerminal)

/-- The slot the notification points to, in a session with this base port. -/
def slot? (base : UInt16) (n : Notification) : Option Slot := n.port.bind (Slot.ofPort · base)

/-- The path MTU the notification tells. -/
def tooBig? (n : Notification) : Option UInt32 :=
  n.error.bind fun e => if e.code = .messageTooBig then some e.info else none

variable {n : Notification}

/-- Without an echo there is no time that could be too late. -/
theorem not_overflows_of_unechoed (unechoed : n.payload = []) : ¬n.Overflows := by
  intro ⟨header, read, _⟩
  rw [unechoed] at read
  cases read

/-- A drain does not go on after a refusal. -/
theorem not_isRefusal_of_going (going : n.stops = false) : n.isRefusal = false := by
  unfold stops at going
  unfold isRefusal
  cases error : n.error with
  | none => rfl
  | some e =>
    rw [error, Option.all_some] at going
    rw [Option.any_some, decide_eq_false_iff_not]
    intro refused
    rw [ExtendedError.isTerminal, refused] at going
    cases going

end Notification

namespace Session
variable {ttl : UInt8} {n : Notification} {p : MatchedProbe}

/-- The session once a notification has been decoded. -/
def after (ttl : UInt8) (s : Session) (n : Notification) : Session := finalState (s.decode ttl n)

theorem identify_ok (s : Session) (timely : ¬n.Overflows) : ∃ p, s.identify n = .ok p := by
  cases found : s.identify n with
  | ok p => exact ⟨p, rfl⟩
  | error e => exact absurd ((s.identify_eq_error_iff n e).mp found).2 timely

theorem after_unidentified {s : Session} {e : Failure} (failed : s.identify n = .error e) :
    s.after ttl n = s.taken n := by
  unfold after
  rw [decode_eq, failed]
  rfl

theorem after_uninformed (s : Session) (error : n.error = none) :
    s.after ttl n = s.taken n := by
  cases found : s.identify n with
  | error e => exact after_unidentified found
  | ok p =>
    unfold after
    rw [decode_eq, found, error]
    rfl

theorem after_informed {s : Session} {e : ExtendedError} (found : s.identify n = .ok p)
    (error : n.error = some e) :
    s.after ttl n =
      (s.taken n).learn (classify e p.ttl (n.receivedTtl.map returnHops) ttl) (p.ttl.getD ttl)
        (n.receivedTtl.map returnHops) := by
  unfold after
  rw [decode_eq, found, error]
  rfl

/-- A session is changed by a notification in two steps, the second of which depends on
whether an error is told and its time can be represented. -/
theorem after_cases (ttl : UInt8) (s : Session) (n : Notification) :
    s.after ttl n = s.taken n ∨
      ∃ p e, s.identify n = .ok p ∧ n.error = some e ∧
        s.after ttl n =
          (s.taken n).learn (classify e p.ttl (n.receivedTtl.map returnHops) ttl)
            (p.ttl.getD ttl) (n.receivedTtl.map returnHops) := by
  cases error : n.error with
  | none => exact .inl (s.after_uninformed error)
  | some e =>
    cases found : s.identify n with
    | ok p => exact .inr ⟨p, e, rfl, rfl, after_informed found error⟩
    | error f => exact .inl (after_unidentified found)

end Session

/-- The sessions agree in everything that no notification changes. -/
structure Session.SameSetup (s s' : Session) : Prop where
  family : s'.family = s.family
  basePort : s'.basePort = s.basePort
  maxTtl : s'.maxTtl = s.maxTtl
  mode : s'.mode = s.mode
  capacity : s'.capacity = s.capacity
  cursor : s'.history.cursor = s.history.cursor

namespace Session.SameSetup
variable {s s' s'' : Session}

theorem refl (s : Session) : s.SameSetup s := ⟨rfl, rfl, rfl, rfl, rfl, rfl⟩

theorem trans (h : s.SameSetup s') (h' : s'.SameSetup s'') : s.SameSetup s'' where
  family := h'.family.trans h.family
  basePort := h'.basePort.trans h.basePort
  maxTtl := h'.maxTtl.trans h.maxTtl
  mode := h'.mode.trans h.mode
  capacity := h'.capacity.trans h.capacity
  cursor := h'.cursor.trans h.cursor

theorem taken (s : Session) (n : Notification) : s.SameSetup (s.taken n) := by
  unfold Session.taken Session.takeRecord
  split
  · exact .refl s
  · exact ⟨rfl, rfl, rfl, rfl, rfl, rfl⟩

theorem learn (s : Session) (status : HopStatus) (hops : UInt8) (backHops : Option UInt8) :
    s.SameSetup (s.learn status hops backHops) := by
  cases status with
  | pathMtu mtu =>
    simp only [Session.learn, Session.clampMtu]
    split
    · exact ⟨rfl, rfl, rfl, rfl, rfl, rfl⟩
    · exact .refl s
  | reached =>
    simp only [Session.learn, Session.setHops]
    split
    · exact ⟨rfl, rfl, rfl, rfl, rfl, rfl⟩
    · exact .refl s
  | _ => exact .refl s

theorem after (ttl : UInt8) (s : Session) (n : Notification) : s.SameSetup (s.after ttl n) := by
  rcases s.after_cases ttl n with silent | ⟨p, e, -, -, told⟩
  · rw [silent]
    exact .taken s n
  · rw [told]
    exact (SameSetup.taken s n).trans (.learn _ _ _ _)

end Session.SameSetup

namespace Session
variable {s : Session} {ttl : UInt8} {n : Notification}

/-- What one notification does to the slots. -/
theorem get?_after (ttl : UInt8) (s : Session) (n : Notification) (slot : Slot) :
    (s.after ttl n).history.get? slot =
      if n.slot? s.basePort = some slot then none else s.history.get? slot := by
  have history : (s.after ttl n).history = (s.taken n).history := by
    rcases s.after_cases ttl n with silent | ⟨p, e, -, -, told⟩
    · rw [silent]
    · rw [told, history_learn]
  rw [history]
  unfold Session.taken Session.takeRecord Notification.slot?
  cases n.port.bind (Slot.ofPort · s.basePort) with
  | none => rw [if_neg nofun]
  | some slot' =>
    change (s.history.clear slot').get? slot = _
    rw [History.get?_clear]
    simp only [Option.some.injEq]

/-- What one notification does to the path MTU. -/
theorem mtu_after (s : Session) (timely : ¬n.Overflows) :
    (s.after ttl n).mtu = (n.tooBig?).elim s.mtu (min s.mtu) := by
  obtain ⟨p, found⟩ := s.identify_ok timely
  unfold Notification.tooBig?
  cases error : n.error with
  | none =>
    rw [s.after_uninformed error, s.mtu_taken]
    rfl
  | some e =>
    rw [after_informed found error, Option.bind_some]
    have told := pathMtu?_classify e p.ttl (n.receivedTtl.map returnHops) ttl
    by_cases big : e.code = .messageTooBig
    · rw [if_pos big] at told ⊢
      rw [mtu_learn_of_some told, s.mtu_taken]
      rfl
    · rw [if_neg big] at told ⊢
      rw [mtu_learn_of_none told, s.mtu_taken]
      rfl

theorem hops_learn {status : HopStatus} (keep : status ≠ .reached ∨ s.hopsTo.isSome = true)
    (hops : UInt8) (backHops : Option UInt8) :
    (s.learn status hops backHops).hopsTo = s.hopsTo ∧
      (s.learn status hops backHops).hopsFrom = s.hopsFrom := by
  cases status with
  | pathMtu mtu =>
    simp only [learn, clampMtu]
    split <;> exact ⟨rfl, rfl⟩
  | reached =>
    have counted : s.hopsTo.isSome = true := keep.resolve_left (absurd rfl)
    obtain ⟨hops', set⟩ := Option.isSome_iff_exists.mp counted
    simp only [learn, setHops, set]
    exact ⟨set, rfl⟩
  | _ => exact ⟨rfl, rfl⟩

theorem hops_taken (s : Session) (n : Notification) :
    (s.taken n).hopsTo = s.hopsTo ∧ (s.taken n).hopsFrom = s.hopsFrom := by
  rw [s.taken_eq n]
  exact ⟨rfl, rfl⟩

/-- Only a refusal changes the hop counts, and only where there are none. -/
theorem hops_after (ttl : UInt8) (s : Session) (n : Notification)
    (keep : n.isRefusal = false ∨ s.hopsTo.isSome = true) :
    (s.after ttl n).hopsTo = s.hopsTo ∧ (s.after ttl n).hopsFrom = s.hopsFrom := by
  obtain ⟨there, back⟩ := s.hops_taken n
  rw [← there, ← back]
  rcases s.after_cases ttl n with silent | ⟨p, e, -, error, told⟩
  · rw [silent]
    exact ⟨rfl, rfl⟩
  · rw [told]
    apply hops_learn
    rw [there]
    refine keep.imp_left fun other reached => ?_
    rw [classify_eq_reached_iff] at reached
    rw [Notification.isRefusal, error, Option.any_some, reached] at other
    cases other

/-- The first refusal leaves hop counts. -/
theorem hops_after_refusal (ttl : UInt8) (timely : ¬n.Overflows) (refusal : n.isRefusal = true)
    (unset : s.hopsTo = none) :
    (s.after ttl n).hopsTo.isSome = true ∧
      (s.after ttl n).hopsFrom = n.receivedTtl.map returnHops := by
  obtain ⟨p, found⟩ := s.identify_ok timely
  have taken : (s.taken n).hopsTo = none := (s.hops_taken n).1.trans unset
  unfold Notification.isRefusal at refusal
  cases error : n.error with
  | none =>
    rw [error] at refusal
    cases refusal
  | some e =>
    rw [error, Option.any_some, decide_eq_true_eq] at refusal
    rw [after_informed found error, (classify_eq_reached_iff e _ _ ttl).mpr refusal]
    unfold Session.learn Session.setHops
    rw [taken]
    exact ⟨rfl, rfl⟩

end Session

/-- The session once all these notifications have been decoded, the first one first. -/
def Session.afterAll (ttl : UInt8) (s : Session) (read : List Notification) : Session :=
  read.foldl (·.after ttl) s

namespace Session
variable {ttl : UInt8} {read : List Notification}

@[simp] theorem afterAll_nil (ttl : UInt8) (s : Session) : s.afterAll ttl [] = s := rfl

theorem afterAll_concat (ttl : UInt8) (s : Session) (read : List Notification)
    (n : Notification) :
    s.afterAll ttl (read ++ [n]) = (s.afterAll ttl read).after ttl n := List.foldl_append

theorem afterAll_cons (ttl : UInt8) (s : Session) (n : Notification) (read : List Notification) :
    s.afterAll ttl (n :: read) = (s.after ttl n).afterAll ttl read := rfl

theorem SameSetup.afterAll (ttl : UInt8) (s : Session) (read : List Notification) :
    s.SameSetup (s.afterAll ttl read) := by
  induction read generalizing s with
  | nil => exact .refl s
  | cons n read ih => exact (SameSetup.after ttl s n).trans (ih _)

theorem get?_afterAll (ttl : UInt8) (s : Session) (read : List Notification) (slot : Slot) :
    (s.afterAll ttl read).history.get? slot =
      if ∃ n ∈ read, n.slot? s.basePort = some slot then none else s.history.get? slot := by
  induction read generalizing s with
  | nil => simp
  | cons n read ih =>
    rw [afterAll_cons, ih, get?_after, (SameSetup.after ttl s n).basePort]
    by_cases here : n.slot? s.basePort = some slot
    · rw [if_pos here, ite_self, if_pos ⟨n, List.mem_cons_self, here⟩]
    · rw [if_neg here]
      simp only [List.mem_cons, exists_eq_or_imp, here, false_or]

theorem mtu_afterAll (s : Session) (timely : ∀ n ∈ read, ¬n.Overflows) :
    (s.afterAll ttl read).mtu = (read.filterMap Notification.tooBig?).foldl min s.mtu := by
  induction read generalizing s with
  | nil => rfl
  | cons n read ih =>
    have now : ¬n.Overflows := timely n List.mem_cons_self
    have later : ∀ m ∈ read, ¬m.Overflows := fun m mem => timely m (List.mem_cons_of_mem _ mem)
    rw [afterAll_cons, ih _ later, s.mtu_after now]
    cases told : n.tooBig? with
    | none =>
      rw [List.filterMap_cons_none told]
      rfl
    | some mtu =>
      rw [List.filterMap_cons_some told]
      rfl

theorem hops_afterAll (s : Session)
    (keep : (∀ n ∈ read, n.isRefusal = false) ∨ s.hopsTo.isSome = true) :
    (s.afterAll ttl read).hopsTo = s.hopsTo ∧ (s.afterAll ttl read).hopsFrom = s.hopsFrom := by
  induction read generalizing s with
  | nil => exact ⟨rfl, rfl⟩
  | cons n read ih =>
    have here : n.isRefusal = false ∨ s.hopsTo.isSome = true :=
      keep.imp_left fun none => none n List.mem_cons_self
    obtain ⟨there, back⟩ := hops_after ttl s n here
    have rest := ih (s.after ttl n) <| by
      rw [there]
      exact keep.imp_left fun none m mem => none m (List.mem_cons_of_mem _ mem)
    rw [there, back] at rest
    exact rest

end Session

end HopTrace
