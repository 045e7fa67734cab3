import HopTrace.Config.Layers
import Mathlib.Data.List.TakeWhile

/-!
# Destinations as they are written

A destination is a host, or a host and a port with a slash between them. The first slash ends the
host. The port is a number in decimal digits, perhaps after a plus sign, and leading zeros do not
matter.

A destination that is not written so leaves nothing to configure, even where the port in it
would not have been used.
-/
namespace HopTrace

namespace Decimal

def IsDigits (text : List Char) : Prop :=
  text ≠ [] ∧ ∀ c ∈ text, c.isDigit = true

/-- A text of digits, perhaps after a plus sign, and its value. -/
inductive Numeral : List Char → Nat → Prop
  | plain {digits : List Char} : IsDigits digits → Numeral digits (Nat.ofDigitChars 10 digits 0)
  | signed {digits : List Char} : IsDigits digits →
      Numeral ('+' :: digits) (Nat.ofDigitChars 10 digits 0)

theorem IsDigits.head {c : Char} {rest : List Char} (h : IsDigits (c :: rest)) :
    c.isDigit = true :=
  h.2 c List.mem_cons_self

/-- No sign is a digit. -/
theorem not_isDigits_plus {rest : List Char} : ¬IsDigits ('+' :: rest) :=
  fun h => absurd h.head (by decide)

theorem not_isDigits_minus {rest : List Char} : ¬IsDigits ('-' :: rest) :=
  fun h => absurd h.head (by decide)

theorem numeral_plus_iff {digits : List Char} {n : Nat} :
    Numeral ('+' :: digits) n ↔ IsDigits digits ∧ n = Nat.ofDigitChars 10 digits 0 := by
  constructor
  · intro h
    cases h with
    | plain h => exact absurd h not_isDigits_plus
    | signed h => exact ⟨h, rfl⟩
  · rintro ⟨h, rfl⟩
    exact .signed h

theorem numeral_iff {text : List Char} (unsigned : ∀ rest, text ≠ '+' :: rest) {n : Nat} :
    Numeral text n ↔ IsDigits text ∧ n = Nat.ofDigitChars 10 text 0 := by
  constructor
  · intro h
    cases h with
    | plain h => exact ⟨h, rfl⟩
    | signed h => exact absurd rfl (unsigned _)
  · rintro ⟨h, rfl⟩
    exact .plain h

/-- More digits never make a number smaller. -/
theorem le_ofDigitChars (digits : List Char) (value : Nat) :
    value ≤ Nat.ofDigitChars 10 digits value := by
  induction digits generalizing value with
  | nil => exact Nat.le_of_eq Nat.ofDigitChars_nil.symm
  | cons c rest ih =>
    rw [Nat.ofDigitChars_cons]
    exact Nat.le_trans (by omega) (ih _)

/-- It is the whole number that must be in range, since no part of it exceeds the whole. -/
theorem readUp_eq_ok_iff {high value : Nat} (inRange : value ≤ high) {digits : List Char}
    {n : Int} :
    readUp high value digits = .ok n ↔ (∀ c ∈ digits, c.isDigit = true) ∧
      Nat.ofDigitChars 10 digits value ≤ high ∧ n = Nat.ofDigitChars 10 digits value := by
  induction digits generalizing value with
  | nil =>
    rw [readUp, Nat.ofDigitChars_nil, Except.ok.injEq]
    exact ⟨fun h => ⟨nofun, inRange, h.symm⟩, fun h => h.2.2.symm⟩
  | cons c rest ih =>
    have step : (value : Int) * 10 + digitValue c = (10 * value + (c.toNat - '0'.toNat) : Nat) := by
      unfold digitValue
      omega
    rw [readUp, List.forall_mem_cons, Nat.ofDigitChars_cons]
    dsimp only
    rw [step]
    by_cases digit : c.isDigit = true
    · rw [if_pos digit]
      by_cases exceeds : high < 10 * value + (c.toNat - '0'.toNat)
      · rw [if_pos (by omega)]
        refine ⟨nofun, fun h => ?_⟩
        have most := le_ofDigitChars rest (10 * value + (c.toNat - '0'.toNat))
        omega
      · rw [if_neg (by omega), ih (by omega), and_iff_right digit]
    · rw [if_neg digit]
      exact ⟨nofun, fun h => absurd h.1.1 digit⟩

theorem readUp_zero_eq_ok_iff {high : Nat} {digits : List Char} (some : digits ≠ []) {n : Int} :
    readUp high 0 digits = .ok n ↔ ∃ m : Nat,
      (IsDigits digits ∧ m = Nat.ofDigitChars 10 digits 0) ∧ m ≤ high ∧ n = m := by
  have start : readUp high 0 digits = .ok n ↔ _ := readUp_eq_ok_iff (Nat.zero_le high)
  rw [start]
  constructor
  · rintro ⟨all, small, rfl⟩
    exact ⟨_, ⟨⟨some, all⟩, rfl⟩, small, rfl⟩
  · rintro ⟨m, ⟨⟨-, all⟩, rfl⟩, small, rfl⟩
    exact ⟨all, small, rfl⟩

/-- Reading accepts the numerals of the numbers in range. -/
theorem readChars_eq_ok_iff {high : Nat} {text : List Char} {n : Int} :
    readChars 0 high text = .ok n ↔ ∃ m : Nat, Numeral text m ∧ m ≤ high ∧ n = m := by
  unfold readChars
  split
  · refine ⟨nofun, ?_⟩
    rintro ⟨m, ⟨h, -⟩, -⟩
    exact absurd rfl h
  · refine ⟨nofun, ?_⟩
    rintro ⟨m, h, -⟩
    exact absurd rfl (numeral_plus_iff.mp h).1.1
  · refine ⟨nofun, ?_⟩
    rintro ⟨m, ⟨h⟩, -⟩
    exact absurd h not_isDigits_minus
  · next digits some =>
    rw [readUp_zero_eq_ok_iff some]
    simp only [numeral_plus_iff]
  · refine ⟨nofun, ?_⟩
    rintro ⟨m, ⟨h⟩, -⟩
    exact absurd h not_isDigits_minus
  · next some _ _ unsigned _ =>
    rw [readUp_zero_eq_ok_iff some]
    simp only [numeral_iff unsigned]

theorem readPort_eq_some_iff {text : String} {port : UInt16} :
    readPort text = some port ↔ Numeral text.toList port.toNat := by
  have small := port.toNat_lt
  have accepts (n : Int) : read 0 65535 text = .ok n ↔
      ∃ m : Nat, Numeral text.toList m ∧ m ≤ 65535 ∧ n = m := readChars_eq_ok_iff
  unfold readPort
  constructor
  · intro found
    split at found
    · next n reads =>
      obtain ⟨m, numeral, inRange, rfl⟩ := (accepts n).mp reads
      injection found with found
      have value : port.toNat = m := by
        rw [← found, Int.toNat_natCast, UInt16.toNat_ofNat', Nat.mod_eq_of_lt (by omega)]
      exact value ▸ numeral
    · cases found
  · intro numeral
    rw [(accepts port.toNat).mpr ⟨_, numeral, by omega, rfl⟩]
    exact congrArg some UInt16.ofNat_toNat

theorem isDigits_toDigits (n : Nat) : IsDigits (Nat.toDigits 10 n) :=
  ⟨Nat.toDigits_ne_nil, fun _ m => Nat.isDigit_of_mem_toDigits (by omega) (by omega) m⟩

/-- A port as it is printed is read as that port. -/
theorem numeral_toString (port : UInt16) : Numeral (toString port).toList port.toNat := by
  have printed : (toString port).toList = Nat.toDigits 10 port.toNat := by
    change (toString port.toNat).toList = _
    rw [Nat.toString_eq_ofList_toDigits, String.toList_ofList]
  have numeral := Numeral.plain (isDigits_toDigits port.toNat)
  rw [Nat.ofDigitChars_ten_toDigits] at numeral
  rwa [printed]

end Decimal

namespace Destination

/-- How a destination is written. -/
inductive WrittenAs : Destination → String → Prop
  | host {host : String} : '/' ∉ host.toList → WrittenAs ⟨host, none⟩ host
  | hostAndPort {host digits : String} {port : UInt16} : '/' ∉ host.toList →
      Decimal.Numeral digits.toList port.toNat →
      WrittenAs ⟨host, some port⟩ (host ++ "/" ++ digits)

theorem takeWhile_noSlash {host : List Char} (plain : '/' ∉ host) (rest : List Char) :
    (host ++ '/' :: rest).takeWhile (· ≠ '/') = host := by
  rw [List.takeWhile_append_of_pos (by grind)]
  simp

theorem dropWhile_noSlash {host : List Char} (plain : '/' ∉ host) (rest : List Char) :
    (host ++ '/' :: rest).dropWhile (· ≠ '/') = '/' :: rest := by
  rw [List.dropWhile_append_of_pos (by grind)]
  simp

theorem ofText?_host {host : String} (plain : '/' ∉ host.toList) :
    ofText? host = some ⟨host, none⟩ := by
  have all : ∀ c ∈ host.toList, decide (c ≠ '/') = true := by grind
  unfold ofText?
  rw [List.takeWhile_eq_self_iff.mpr all, List.dropWhile_eq_nil_iff.mpr all, String.ofList_toList]

theorem ofText?_hostAndPort {host : String} (plain : '/' ∉ host.toList) (port : String) :
    ofText? (host ++ "/" ++ port) = (Decimal.readPort port).map fun p => ⟨host, some p⟩ := by
  have shape : (host ++ "/" ++ port).toList = host.toList ++ '/' :: port.toList := by simp
  unfold ofText?
  rw [shape, takeWhile_noSlash plain, dropWhile_noSlash plain]
  dsimp only
  rw [String.ofList_toList, String.ofList_toList]

/-- A text without a slash is a host, and any other is split at its first slash. -/
theorem split_text (text : String) : '/' ∉ text.toList ∨
    ∃ host port : String, text = host ++ "/" ++ port ∧ '/' ∉ host.toList := by
  by_cases slash : '/' ∈ text.toList
  · obtain ⟨host, port, whole, plain⟩ := List.eq_append_cons_of_mem slash
    refine .inr ⟨String.ofList host, String.ofList port, ?_, ?_⟩
    · apply String.toList_inj.mp
      rw [whole]
      simp
    · rwa [String.toList_ofList]
  · exact .inl slash

theorem ofText?_eq_some_iff {text : String} {d : Destination} :
    ofText? text = some d ↔ d.WrittenAs text := by
  constructor
  · intro found
    obtain plain | ⟨host, port, rfl, plain⟩ := split_text text
    · rw [ofText?_host plain] at found
      injection found with found
      exact found ▸ .host plain
    · rw [ofText?_hostAndPort plain] at found
      obtain ⟨p, read, rfl⟩ := Option.map_eq_some_iff.mp found
      exact .hostAndPort plain (Decimal.readPort_eq_some_iff.mp read)
  · intro written
    cases written with
    | host plain => exact ofText?_host plain
    | hostAndPort plain numeral =>
      rw [ofText?_hostAndPort plain, Decimal.readPort_eq_some_iff.mpr numeral]
      rfl

/-- What is accepted: a host, or a host and a numeral of a port. -/
theorem exists_ofText?_iff {text : String} : (∃ d, ofText? text = some d) ↔
    '/' ∉ text.toList ∨ ∃ (host digits : String) (n : Nat), text = host ++ "/" ++ digits ∧
      '/' ∉ host.toList ∧ Decimal.Numeral digits.toList n ∧ n ≤ 65535 := by
  simp only [ofText?_eq_some_iff]
  constructor
  · rintro ⟨d, written⟩
    cases written with
    | host plain => exact .inl plain
    | @hostAndPort host digits port plain numeral =>
      have small := port.toNat_lt
      exact .inr ⟨host, digits, port.toNat, rfl, plain, numeral, by omega⟩
  · rintro (plain | ⟨host, digits, n, rfl, plain, numeral, small⟩)
    · exact ⟨_, .host plain⟩
    · have value : (UInt16.ofNat n).toNat = n := by
        rw [UInt16.toNat_ofNat', Nat.mod_eq_of_lt (by omega)]
      exact ⟨_, .hostAndPort plain (value.symm ▸ numeral)⟩

theorem WrittenAs.noSlash_host {d : Destination} {text : String} (h : d.WrittenAs text) :
    '/' ∉ d.host.toList := by
  cases h with
  | host plain => exact plain
  | hostAndPort plain _ => exact plain

end Destination

open CommandLine (Arguments)

theorem splitDestination_eq_ok_iff {a : Arguments} {d : Destination} :
    a.splitDestination = .ok d ↔ ∃ text, a.destination = some text ∧ d.WrittenAs text := by
  simp only [← Destination.ofText?_eq_some_iff]
  unfold Arguments.splitDestination
  cases a.destination with
  | none => simp
  | some text => cases found : Destination.ofText? text <;> simp [found]

theorem splitDestination_eq_error_iff {a : Arguments} {text : String}
    (given : a.destination = some text) {fault : DestinationFault} :
    a.splitDestination = .error fault ↔
      Destination.ofText? text = none ∧ fault = .invalidPort text := by
  unfold Arguments.splitDestination
  rw [given]
  dsimp only
  cases found : Destination.ofText? text with
  | none => simp [eq_comm]
  | some d => simp

/-- Nothing but the destination can be wrong. -/
theorem ofLayers_eq_error_iff {a : Arguments} {file : ConfigFile} {fault : DestinationFault} :
    Settings.ofLayers a file = .error fault ↔ a.splitDestination = .error fault := by
  cases split : a.splitDestination with
  | error e =>
    have fails : Settings.ofLayers a file = .error e := by
      unfold Settings.ofLayers
      rw [split]
      rfl
    rw [fails, Except.error.injEq, Except.error.injEq]
  | ok d =>
    have succeeds : ∃ s, Settings.ofLayers a file = .ok s := by
      unfold Settings.ofLayers
      rw [split]
      exact ⟨_, rfl⟩
    obtain ⟨s, settled⟩ := succeeds
    rw [settled]
    exact ⟨nofun, nofun⟩

/-- A text is a destination exactly if it is written as one. Otherwise there are no settings,
whatever else is on the command line and in the configuration file. -/
theorem destination_syntax (text : String) :
    ((∃ d, Destination.ofText? text = some d) ↔
      '/' ∉ text.toList ∨ ∃ (host digits : String) (n : Nat), text = host ++ "/" ++ digits ∧
        '/' ∉ host.toList ∧ Decimal.Numeral digits.toList n ∧ n ≤ 65535) ∧
    (∀ d, Destination.ofText? text = some d ↔ d.WrittenAs text) ∧
    (∀ d, Destination.ofText? text = some d → '/' ∉ d.host.toList) ∧
    (∀ (host : String) (port : UInt16), '/' ∉ host.toList →
      Destination.ofText? (host ++ "/" ++ toString port) = some ⟨host, some port⟩) ∧
    ∀ (a : Arguments) (file : ConfigFile), a.destination = some text →
      ∀ fault, Settings.ofLayers a file = .error fault ↔
        Destination.ofText? text = none ∧ fault = .invalidPort text := by
  refine ⟨Destination.exists_ofText?_iff, fun d => Destination.ofText?_eq_some_iff, ?_, ?_, ?_⟩
  · intro d found
    exact (Destination.ofText?_eq_some_iff.mp found).noSlash_host
  · intro host port plain
    exact Destination.ofText?_eq_some_iff.mpr (.hostAndPort plain (Decimal.numeral_toString port))
  · intro a file given fault
    rw [ofLayers_eq_error_iff, splitDestination_eq_error_iff given]

/-- A port on the command line does not make up for one that is no port. -/
theorem destination_syntax_overflow :
    Destination.ofText? "h/+00443" = some ⟨"h", some 443⟩ ∧
      Destination.ofText? ("h" ++ "/" ++ toString (443 : UInt16)) = some ⟨"h", some 443⟩ ∧
      Settings.ofLayers { destination := some "h/65536", port := some 443 } {} =
        .error (.invalidPort "h/65536") := by
  obtain ⟨-, -, -, printed, -⟩ := destination_syntax "h/+00443"
  obtain ⟨-, -, -, -, fails⟩ := destination_syntax "h/65536"
  exact ⟨by decide, printed "h" 443 (by decide), (fails _ _ rfl _).mpr ⟨by decide, rfl⟩⟩

end HopTrace
