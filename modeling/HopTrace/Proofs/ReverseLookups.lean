import HopTrace.Names
import Mathlib.Data.List.Forall2
import Mathlib.Data.List.Induction
import Mathlib.Data.List.Nodup

/-!
# The names that are remembered

However often a resolver is asked for the name of an address, it asks the system at the first
time only. What the system answered then, be it that there is no name, is the answer to every
call, even if the system has changed its mind since. Calls for other addresses do not come into
it.

The system may answer as it likes, from a state of any type. Each query is written down with
its answer, the latest last; writing down changes no answer.
-/
namespace HopTrace

variable {σ : Type}

/-- A query of the system for the name of an address, and the answer. -/
structure NameQuery where
  address : IpAddress
  answer : Option String
  deriving DecidableEq, Repr

/-- What is remembered of the answer. -/
def NameQuery.entry (q : NameQuery) : ReverseEntry := .ofAnswer q.address q.answer

/-- A state and the queries that led to it. -/
structure Inquired (σ : Type) where
  queries : List NameQuery
  inner : σ

namespace NameService

/-- A name service that writes down each query and its answer. -/
def inquired (svc : NameService σ) : NameService (Inquired σ) where
  forward host x :=
    match svc.forward host x.inner with
    | .ok addresses s => .ok addresses { x with inner := s }
    | .error code s => .error code { x with inner := s }
  reverse a x :=
    let (answer, s) := svc.reverse a x.inner
    (answer, ⟨x.queries ++ [⟨a, answer⟩], s⟩)

/-- The entries of several addresses looked up in turn. -/
def reverseLookups (svc : NameService σ) :
    List IpAddress → NameCache → σ → List ReverseEntry × NameCache × σ
  | [], c, s => ([], c, s)
  | a :: rest, c, s =>
    let (entry, c, s) := svc.reverseLookup a c s
    let (entries, c, s) := svc.reverseLookups rest c s
    (entry :: entries, c, s)

/-- What a resolver that knows nothing yet answers to calls for the addresses. -/
def answers (svc : NameService σ) (as : List IpAddress) (s : σ) : List ReverseEntry :=
  (svc.reverseLookups as .empty s).1

/-- What the resolver knows after the calls. -/
def known (svc : NameService σ) (as : List IpAddress) (s : σ) : NameCache :=
  (svc.reverseLookups as .empty s).2.1

/-- The state of the system after the calls. -/
def after (svc : NameService σ) (as : List IpAddress) (s : σ) : σ :=
  (svc.reverseLookups as .empty s).2.2

/-- The queries that the calls lead to, the latest last. -/
def queries (svc : NameService σ) (as : List IpAddress) (s : σ) : List NameQuery :=
  (svc.inquired.reverseLookups as .empty ⟨[], s⟩).2.2.queries

variable {svc : NameService σ} {as : List IpAddress} {a : IpAddress} {c : NameCache} {s : σ}

theorem reverseLookup_of_known {entry : ReverseEntry} (known : c.find? a = some entry) :
    svc.reverseLookup a c s = (entry, c, s) := by
  unfold reverseLookup
  rw [known]

theorem reverseLookup_of_unknown (unknown : c.find? a = none) :
    svc.reverseLookup a c s =
      (.ofAnswer a (svc.reverse a s).1, c.insert a (.ofAnswer a (svc.reverse a s).1),
        (svc.reverse a s).2) := by
  unfold reverseLookup
  rw [unknown]

theorem reverseLookups_concat (svc : NameService σ) (as : List IpAddress) (a : IpAddress)
    (c : NameCache) (s : σ) :
    svc.reverseLookups (as ++ [a]) c s =
      let (entries, c, s) := svc.reverseLookups as c s
      let (entry, c, s) := svc.reverseLookup a c s
      (entries ++ [entry], c, s) := by
  induction as generalizing c s with
  | nil => rfl
  | cons b rest ih => simp only [List.cons_append, reverseLookups, ih]

theorem answers_concat : svc.answers (as ++ [a]) s =
    svc.answers as s ++ [(svc.reverseLookup a (svc.known as s) (svc.after as s)).1] := by
  unfold answers
  rw [reverseLookups_concat]
  rfl

theorem known_concat : svc.known (as ++ [a]) s =
    (svc.reverseLookup a (svc.known as s) (svc.after as s)).2.1 := by
  unfold known
  rw [reverseLookups_concat]
  rfl

theorem after_concat : svc.after (as ++ [a]) s =
    (svc.reverseLookup a (svc.known as s) (svc.after as s)).2.2 := by
  unfold after
  rw [reverseLookups_concat]
  rfl

/-- The query that a call leads to, if it leads to one. -/
def query? (svc : NameService σ) (a : IpAddress) (c : NameCache) (s : σ) : List NameQuery :=
  if (c.find? a).isSome then [] else [⟨a, (svc.reverse a s).1⟩]

/-- Writing down the queries changes nothing else. -/
theorem reverseLookup_inquired (svc : NameService σ) (a : IpAddress) (c : NameCache)
    (x : Inquired σ) :
    svc.inquired.reverseLookup a c x =
      let (entry, c', s) := svc.reverseLookup a c x.inner
      (entry, c', ⟨x.queries ++ svc.query? a c x.inner, s⟩) := by
  unfold query?
  cases found : c.find? a with
  | some entry =>
    rw [reverseLookup_of_known found, reverseLookup_of_known found]
    simp
  | none =>
    rw [reverseLookup_of_unknown found, reverseLookup_of_unknown found]
    rfl

theorem reverseLookups_inquired (svc : NameService σ) (as : List IpAddress) (s : σ) :
    svc.inquired.reverseLookups as .empty ⟨[], s⟩ =
      (svc.answers as s, svc.known as s, ⟨svc.queries as s, svc.after as s⟩) := by
  induction as using List.reverseRecOn with
  | nil => rfl
  | append_singleton as a ih =>
    have written : svc.queries (as ++ [a]) s =
        svc.queries as s ++ svc.query? a (svc.known as s) (svc.after as s) := by
      unfold queries
      rw [reverseLookups_concat, ih]
      simp only [reverseLookup_inquired]
    rw [reverseLookups_concat, ih, answers_concat, known_concat, after_concat, written]
    simp only [reverseLookup_inquired]

theorem queries_concat : svc.queries (as ++ [a]) s =
    svc.queries as s ++ svc.query? a (svc.known as s) (svc.after as s) := by
  unfold queries
  rw [reverseLookups_concat, reverseLookups_inquired]
  simp only [reverseLookup_inquired]

end NameService

/-! ## What is known is what was asked -/

/-- What is known after calls for the addresses `as`, and what was answered to them, are the
answers to the queries, one for each address. -/
structure Remembers (as : List IpAddress) (queries : List NameQuery) (c : NameCache)
    (entries : List ReverseEntry) : Prop where
  once : (queries.map NameQuery.address).Nodup
  asked : ∀ a, a ∈ queries.map NameQuery.address ↔ a ∈ as
  known : ∀ q ∈ queries, c.find? q.address = some q.entry
  unknown : ∀ a ∉ as, c.find? a = none
  answered : List.Forall₂ (fun a entry => ∃ q ∈ queries, q.address = a ∧ entry = q.entry) as entries

namespace Remembers
variable {as : List IpAddress} {queries : List NameQuery} {c : NameCache}
variable {entries : List ReverseEntry} {a : IpAddress}

theorem nothing : Remembers [] [] .empty [] where
  once := List.nodup_nil
  asked _ := Iff.rfl
  known := List.forall_mem_nil _
  unknown _ _ := rfl
  answered := .nil

theorem isSome_find?_iff (h : Remembers as queries c entries) : (c.find? a).isSome ↔ a ∈ as := by
  constructor
  · intro found
    by_contra absent
    rw [h.unknown a absent] at found
    cases found
  · intro present
    obtain ⟨q, m, rfl⟩ := List.mem_map.mp ((h.asked a).mpr present)
    rw [h.known q m]
    rfl

/-- A call for an address that is known answers what the query for it has brought. -/
theorem again (h : Remembers as queries c entries) (present : a ∈ as) :
    ∃ q ∈ queries, q.address = a ∧ c.find? a = some q.entry ∧
      Remembers (as ++ [a]) queries c (entries ++ [q.entry]) := by
  obtain ⟨q, m, rfl⟩ := List.mem_map.mp ((h.asked a).mpr present)
  refine ⟨q, m, rfl, h.known q m, h.once, ?_, h.known, ?_, ?_⟩
  · intro b
    rw [h.asked b, List.mem_append, List.mem_singleton]
    refine ⟨.inl, ?_⟩
    rintro (earlier | rfl)
    · exact earlier
    · exact present
  · intro b absent
    exact h.unknown b fun m => absent (List.mem_append_left _ m)
  · exact List.rel_append h.answered (.cons ⟨q, m, rfl, rfl⟩ .nil)

/-- A call for any other address leads to a query, and its answer is remembered. -/
theorem first (h : Remembers as queries c entries) (absent : a ∉ as) (answer : Option String) :
    Remembers (as ++ [a]) (queries ++ [⟨a, answer⟩]) (c.insert a (.ofAnswer a answer))
      (entries ++ [.ofAnswer a answer]) := by
  have fresh : a ∉ queries.map NameQuery.address := mt (h.asked a).mp absent
  refine ⟨?_, ?_, ?_, ?_, ?_⟩
  · rw [List.map_append]
    exact List.nodup_append.mpr ⟨h.once, List.nodup_singleton _, by simpa using fresh⟩
  · intro b
    rw [List.map_append, List.mem_append, List.mem_append, h.asked b]
    rfl
  · intro q m
    rw [NameCache.find?_insert]
    rcases List.mem_append.mp m with earlier | m
    · have other : q.address ≠ a := by
        rintro rfl
        exact fresh (List.mem_map_of_mem earlier)
      rw [if_neg other, h.known q earlier]
    · obtain rfl := List.mem_singleton.mp m
      rw [if_pos rfl]
      rfl
  · intro b absent
    rw [List.mem_append, List.mem_singleton, not_or] at absent
    rw [NameCache.find?_insert, if_neg absent.2, h.unknown b absent.1]
  · refine List.rel_append (h.answered.imp ?_) (.cons ⟨⟨a, answer⟩, by simp, rfl, rfl⟩ .nil)
    rintro b entry ⟨q, m, same⟩
    exact ⟨q, List.mem_append_left _ m, same⟩

end Remembers

namespace NameService
variable {svc : NameService σ} {as : List IpAddress} {a : IpAddress} {s : σ}

theorem remembers (svc : NameService σ) (as : List IpAddress) (s : σ) :
    Remembers as (svc.queries as s) (svc.known as s) (svc.answers as s) := by
  induction as using List.reverseRecOn with
  | nil => exact .nothing
  | append_singleton as a ih =>
    rw [queries_concat, known_concat, answers_concat]
    unfold query?
    by_cases present : a ∈ as
    · obtain ⟨q, -, -, known, again⟩ := ih.again present
      rw [reverseLookup_of_known known, if_pos (ih.isSome_find?_iff.mpr present),
        List.append_nil]
      exact again
    · rw [reverseLookup_of_unknown (ih.unknown a present),
        if_neg (mt ih.isSome_find?_iff.mp present)]
      exact ih.first present _

/-- The system is queried at the first call for an address and never again. -/
theorem queries_next : svc.queries (as ++ [a]) s =
    svc.queries as s ++ if a ∈ as then [] else [⟨a, (svc.reverse a (svc.after as s)).1⟩] := by
  rw [queries_concat]
  unfold query?
  simp only [(svc.remembers as s).isSome_find?_iff]

theorem after_next : svc.after (as ++ [a]) s =
    if a ∈ as then svc.after as s else (svc.reverse a (svc.after as s)).2 := by
  have h := svc.remembers as s
  rw [after_concat]
  split
  · next present =>
    obtain ⟨q, -, -, known, -⟩ := h.again present
    rw [reverseLookup_of_known known]
  · next absent => rw [reverseLookup_of_unknown (h.unknown a absent)]

/-- A system whose answer about `a` does not depend on the queries about other addresses. -/
structure Settled (svc : NameService σ) (a : IpAddress) (answer : Option String) (P : σ → Prop) :
    Prop where
  answers : ∀ {s}, P s → (svc.reverse a s).1 = answer
  others : ∀ {s} b, b ≠ a → P s → P (svc.reverse b s).2

theorem Settled.queries {answer : Option String} {P : σ → Prop} (h : svc.Settled a answer P)
    (start : P s) :
    (a ∉ as → P (svc.after as s)) ∧ ∀ q ∈ svc.queries as s, q.address = a → q.answer = answer := by
  induction as using List.reverseRecOn with
  | nil => exact ⟨fun _ => start, List.forall_mem_nil _⟩
  | append_singleton as b ih =>
    obtain ⟨kept, asked⟩ := ih
    rw [after_next, queries_next]
    constructor
    · intro absent
      rw [List.mem_append, List.mem_singleton, not_or] at absent
      split
      · exact kept absent.1
      · exact h.others b (Ne.symm absent.2) (kept absent.1)
    · intro q m same
      rcases List.mem_append.mp m with m | m
      · exact asked q m same
      · split at m
        · cases m
        · next absent =>
          obtain rfl := List.mem_singleton.mp m
          obtain rfl : b = a := same
          exact h.answers (kept absent)

end NameService

end HopTrace
