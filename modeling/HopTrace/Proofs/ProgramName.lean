import HopTrace.CommandLine.Arguments
import Mathlib.Data.List.Induction

/-!
# What the name of the program asks for

A program is started under a path. Its name is what stands behind the last slash, where slashes
at the end do not count, nor single dots behind them. A name that is a text and ends in the
digit of a version asks for that version, just as the option of that digit does. Only one
version may be asked for.
-/
namespace HopTrace.CommandLine.Arguments

/-- What does not count at the end of a path. -/
inductive Trailing : List UInt8 → Prop
  | nil : Trailing []
  | slash {rest : List UInt8} : Trailing rest → Trailing (slash :: rest)
  | dot {rest : List UInt8} : Trailing rest → Trailing (Arguments.slash :: dot :: rest)

/-- What a file may be called. The dots stand for a directory and the one above it. -/
structure IsName (name : List UInt8) : Prop where
  nonempty : name ≠ []
  oneComponent : slash ∉ name
  notHere : name ≠ [dot]
  notAbove : name ≠ [dot, dot]

/-- The last component of a path. -/
def EndsIn (path name : List UInt8) : Prop :=
  ∃ directory rest, path = directory ++ name ++ rest ∧
    (directory = [] ∨ ∃ parent, directory = parent ++ [slash]) ∧ Trailing rest

section Components
variable {α : Type} {a : α}

theorem not_mem_of_mem_splitOn [BEq α] [LawfulBEq α] {xs part : List α}
    (h : part ∈ xs.splitOn a) : a ∉ part := by
  induction xs generalizing part with
  | nil =>
    rw [List.splitOn_nil, List.mem_singleton] at h
    exact h ▸ List.not_mem_nil
  | cons x xs ih =>
    rw [List.splitOn_cons_eq_if_modifyHead] at h
    by_cases sep : (x == a) = true
    · rw [if_pos sep, List.mem_cons] at h
      rcases h with rfl | h
      · exact List.not_mem_nil
      · exact ih h
    · rw [if_neg sep] at h
      obtain ⟨first, others, split⟩ := List.exists_cons_of_ne_nil (List.splitOn_ne_nil a xs)
      rw [split, List.modifyHead_cons, List.mem_cons] at h
      rw [split] at ih
      rcases h with rfl | h
      · have apart : a ≠ x := fun same => sep (beq_iff_eq.mpr same.symm)
        exact List.not_mem_cons_of_ne_of_not_mem apart (ih List.mem_cons_self)
      · exact ih (List.mem_cons_of_mem first h)

theorem intercalate_cons_eq (part : List α) (after : List (List α)) :
    [a].intercalate (part :: after) = part ++ after.flatMap (a :: ·) := by
  induction after generalizing part with
  | nil => simp
  | cons next after ih =>
    rw [List.intercalate_cons_cons, ih, List.flatMap_cons]
    simp

theorem intercalate_append_cons (before : List (List α)) (part : List α)
    (after : List (List α)) :
    [a].intercalate (before ++ part :: after) =
      before.flatMap (· ++ [a]) ++ part ++ after.flatMap (a :: ·) := by
  induction before with
  | nil => exact intercalate_cons_eq part after
  | cons first before ih =>
    rw [List.cons_append, List.intercalate_cons_of_ne_nil (by simp), ih, List.flatMap_cons]
    simp

end Components

/-- The components that do not count. -/
def Skipped (part : List UInt8) : Prop := part = [] ∨ part = [dot]

theorem trailing_flatMap {after : List (List UInt8)} (skipped : ∀ part ∈ after, Skipped part) :
    Trailing (after.flatMap (slash :: ·)) := by
  induction after with
  | nil => exact .nil
  | cons part after ih =>
    have rest := ih fun p m => skipped p (List.mem_cons_of_mem part m)
    rw [List.flatMap_cons]
    rcases skipped part List.mem_cons_self with rfl | rfl
    · exact .slash rest
    · exact .dot rest

theorem splitOn_trailing {rest : List UInt8} (trailing : Trailing rest) {name : List UInt8}
    (oneComponent : slash ∉ name) :
    ∃ after, (name ++ rest).splitOn slash = name :: after ∧ ∀ part ∈ after, Skipped part := by
  induction trailing generalizing name with
  | nil =>
    refine ⟨[], ?_, nofun⟩
    rw [List.append_nil, List.splitOn_eq_singleton oneComponent]
  | slash _ ih =>
    obtain ⟨after, split, skipped⟩ := ih (List.not_mem_nil (a := slash))
    refine ⟨[] :: after, ?_, ?_⟩
    · rw [List.splitOn_append_cons_self_of_not_mem oneComponent, ← split, List.nil_append]
    · exact List.forall_mem_cons.mpr ⟨.inl rfl, skipped⟩
  | dot _ ih =>
    have alone : slash ∉ [dot] := by decide
    obtain ⟨after, split, skipped⟩ := ih alone
    refine ⟨[dot] :: after, ?_, ?_⟩
    · rw [List.splitOn_append_cons_self_of_not_mem oneComponent, ← split]
      rfl
    · exact List.forall_mem_cons.mpr ⟨.inr rfl, skipped⟩

theorem endsIn_iff {path name : List UInt8} (isName : IsName name) : EndsIn path name ↔
    ∃ before after, path.splitOn slash = before ++ name :: after ∧
      ∀ part ∈ after, Skipped part := by
  constructor
  · rintro ⟨directory, rest, rfl, inDirectory, trailing⟩
    obtain ⟨after, split, skipped⟩ := splitOn_trailing trailing isName.oneComponent
    rcases inDirectory with rfl | ⟨parent, rfl⟩
    · exact ⟨[], after, by rw [List.nil_append, split, List.nil_append], skipped⟩
    · refine ⟨parent.splitOn slash, after, ?_, skipped⟩
      rw [← split, ← List.splitOn_append_cons_self]
      simp
  · rintro ⟨before, after, split, skipped⟩
    refine ⟨before.flatMap (· ++ [slash]), after.flatMap (slash :: ·), ?_, ?_,
      trailing_flatMap skipped⟩
    · rw [← intercalate_append_cons, ← split, List.intercalate_splitOn]
    · cases before using List.reverseRecOn with
      | nil => exact .inl rfl
      | append_singleton before last =>
        exact .inr ⟨before.flatMap (· ++ [slash]) ++ last, by simp⟩

theorem fileName_eq_some_iff {path name : List UInt8} :
    fileName path = some name ↔ IsName name ∧ EndsIn path name := by
  unfold fileName
  rw [Option.filter_eq_some_iff, List.getLast?_filter, List.find?_eq_some_iff_append]
  constructor
  · rintro ⟨⟨counts, after, before, whole, rest⟩, notAbove⟩
    rw [List.reverse_eq_append_iff, List.reverse_cons, List.append_assoc, List.singleton_append]
      at whole
    have component : name ∈ path.splitOn slash := by
      rw [whole]
      exact List.mem_append_right _ List.mem_cons_self
    have isName : IsName name :=
      ⟨by grind, not_mem_of_mem_splitOn component, by grind, by grind⟩
    refine ⟨isName, (endsIn_iff isName).mpr ⟨_, _, whole, ?_⟩⟩
    intro part m
    have skipped := rest part (List.mem_reverse.mp m)
    unfold Skipped
    grind
  · rintro ⟨isName, ends⟩
    obtain ⟨before, after, whole, skipped⟩ := (endsIn_iff isName).mp ends
    refine ⟨⟨?_, after.reverse, before.reverse, ?_, ?_⟩, ?_⟩
    · simp [isName.nonempty, isName.notHere]
    · rw [whole]
      simp
    · intro part m
      rcases skipped part (List.mem_reverse.mp m) with rfl | rfl <;> simp
    · simp [isName.notAbove]

/-! ## The version asked for -/

theorem textOf?_eq_some_iff {path : List UInt8} {text : String} :
    textOf? path = some text ↔ path = pathOf text := by
  unfold textOf? pathOf String.fromUTF8? String.toUTF8
  constructor
  · intro decoded
    split at decoded
    · injection decoded with decoded
      rw [← decoded]
      rfl
    · cases decoded
  · rintro rfl
    rw [dif_pos text.isValidUTF8]
    rfl

def digit : IpVersion → Char
  | .v4 => '4'
  | .v6 => '6'

/-- The path ends in a name that is a text and ends in the digit of the version. -/
def NamesVersion (path : List UInt8) (version : IpVersion) : Prop :=
  ∃ text : String, IsName (pathOf text) ∧ EndsIn path (pathOf text) ∧
    text.toList.getLast? = some (digit version)

theorem versionOfPath_eq_some_iff {path : List UInt8} {version : IpVersion} :
    versionOfPath path = some version ↔ NamesVersion path version := by
  have named (c : Char) : ((fileName path).bind textOf?).bind (·.toList.getLast?) = some c ↔
      ∃ text : String, IsName (pathOf text) ∧ EndsIn path (pathOf text) ∧
        text.toList.getLast? = some c := by
    simp only [Option.bind_eq_some_iff, fileName_eq_some_iff, textOf?_eq_some_iff]
    constructor
    · rintro ⟨text, ⟨name, ⟨isName, ends⟩, rfl⟩, last⟩
      exact ⟨text, isName, ends, last⟩
    · rintro ⟨text, isName, ends, last⟩
      exact ⟨text, ⟨_, ⟨isName, ends⟩, rfl⟩, last⟩
  unfold NamesVersion
  rw [← named]
  unfold versionOfPath
  split
  · next four => cases version <;> simp [four, digit]
  · next six => cases version <;> simp [six, digit]
  · next noFour noSix =>
    refine ⟨nofun, fun last => ?_⟩
    cases version with
    | v4 => exact absurd last noFour
    | v6 => exact absurd last noSix

/-- Whether the option of a version is given. -/
def flag (a : Arguments) : IpVersion → Bool
  | .v4 => a.ipv4
  | .v6 => a.ipv6

/-- A version is asked for by its option or by the program's name. -/
def AsksFor (a : Arguments) (program : Option (List UInt8)) (version : IpVersion) : Prop :=
  a.flag version = true ∨ ∃ path, program = some path ∧ NamesVersion path version

theorem asksFor_iff {a : Arguments} {program : Option (List UInt8)} {version : IpVersion} :
    a.AsksFor program version ↔
      (a.flag version || program.bind versionOfPath = some version) = true := by
  unfold AsksFor
  rw [Bool.or_eq_true, decide_eq_true_iff, Option.bind_eq_some_iff]
  simp only [versionOfPath_eq_some_iff]

/-- The arguments with the options for the versions that are asked for. -/
structure Completes (a : Arguments) (program : Option (List UInt8)) (b : Arguments) : Prop where
  flag_iff : ∀ version, b.flag version = true ↔ a.AsksFor program version
  rest : { a with ipv4 := b.ipv4, ipv6 := b.ipv6 } = b

theorem withProgram_eq_error_iff {a : Arguments} {program : Option (List UInt8)}
    {e : UsageError} : a.withProgram program = .error e ↔
      (a.AsksFor program .v4 ∧ a.AsksFor program .v6) ∧ e = .familyConflict := by
  rw [asksFor_iff, asksFor_iff, ← Bool.and_eq_true]
  unfold withProgram
  dsimp only [flag]
  split
  · next conflict => simp only [conflict, true_and, Except.error.injEq, eq_comm]
  · next one => exact ⟨nofun, fun h => absurd h.1 one⟩

theorem Completes.of_withProgram {a b : Arguments} {program : Option (List UInt8)}
    (h : a.withProgram program = .ok b) : a.Completes program b := by
  unfold withProgram at h
  dsimp only at h
  split at h
  · cases h
  · injection h with h
    subst h
    refine ⟨fun version => ?_, rfl⟩
    rw [asksFor_iff]
    cases version <;> rfl

/-- The arguments are completed unless two versions are asked for. -/
theorem Completes.not_both {a b : Arguments} {program : Option (List UInt8)}
    (h : a.withProgram program = .ok b) : ¬(b.ipv4 = true ∧ b.ipv6 = true) := by
  have completes := of_withProgram h
  rintro ⟨ipv4, ipv6⟩
  have conflict : a.withProgram program = .error .familyConflict :=
    withProgram_eq_error_iff.mpr
      ⟨⟨(completes.flag_iff .v4).mp ipv4, (completes.flag_iff .v6).mp ipv6⟩, rfl⟩
  rw [h] at conflict
  cases conflict

end HopTrace.CommandLine.Arguments
