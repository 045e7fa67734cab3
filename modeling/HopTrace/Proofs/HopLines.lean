import HopTrace.Proofs.DestinationSyntax
import HopTrace.Report
import Mathlib.Algebra.Group.Nat.Defs
import Mathlib.Data.List.Basic

/-!
# The line of a hop

A hop line is an opening with the hop number, a column with the responder, the round trip time if
there is one, and what the status adds. The text of a remote responder is never cut. It ends
within its column or makes the column one character longer than itself, so there is a blank behind
it in any case, and the round trip times of the short ones stand below each other.

`Opens`, `Identifies` and `Times` are the forms of the first three parts. The length of a text is
the number of its characters, whatever they are.
-/
namespace HopTrace

namespace Decimal

/-- A number in decimal digits, with no zero to spare, at the right end of a column that grows
with it. -/
inductive SetRight (width n : Nat) : List Char → Prop
  | intro {digits : List Char} : IsDigits digits → Nat.ofDigitChars 10 digits 0 = n →
      (digits.head? = some '0' → digits = ['0']) →
      SetRight width n (List.replicate (width - digits.length) ' ' ++ digits)

/-- The first digit of a number is no zero, unless the number is. -/
theorem head?_toDigits {n : Nat} (positive : 0 < n) : (Nat.toDigits 10 n).head? ≠ some '0' := by
  induction n using Nat.strongRecOn with
  | ind n ih =>
    by_cases small : n < 10
    · have digit : ∀ d < 10, 0 < d → d.digitChar ≠ '0' := by decide
      rw [Nat.toDigits_of_lt_base small]
      simpa using digit n small positive
    · rw [Nat.toDigits_of_base_le (by omega) (by omega),
        List.head?_append_of_ne_nil _ Nat.toDigits_ne_nil]
      exact ih (n / 10) (by omega) (by omega)

theorem toList_number (width n : Nat) : (Column.number width n).toList =
    List.replicate (width - (Nat.toDigits 10 n).length) ' ' ++ Nat.toDigits 10 n := by
  unfold Column.number Column.alignRight Column.blanks
  rw [Nat.toString_eq_ofList_toDigits, String.toList_append, String.toList_ofList,
    String.toList_ofList, String.length_ofList]

theorem setRight_number (width n : Nat) : SetRight width n (Column.number width n).toList := by
  rw [toList_number]
  refine .intro (isDigits_toDigits n) Nat.ofDigitChars_ten_toDigits fun zero => ?_
  rcases Nat.eq_zero_or_pos n with rfl | positive
  · exact Nat.toDigits_zero 10
  · exact absurd zero (head?_toDigits positive)

/-- A number whose first digit is no zero is at least as large as its number of digits says. -/
theorem pow_le_ofDigitChars {c : Char} {rest : List Char} (digit : c.isDigit = true)
    (positive : c ≠ '0') : 10 ^ rest.length ≤ Nat.ofDigitChars 10 (c :: rest) 0 := by
  have above : 48 < c.toNat := by
    have least : 48 ≤ c.toNat := by
      simp only [Char.isDigit, Bool.and_eq_true, decide_eq_true_eq] at digit
      exact UInt32.le_iff_toNat_le.mp digit.1
    refine Nat.lt_of_le_of_ne least fun same => positive ?_
    exact Char.toNat_inj.mp same.symm
  have first : '0'.toNat = 48 := rfl
  rw [Nat.ofDigitChars_cons, Nat.ofDigitChars_eq_ofDigitChars_zero, first]
  calc 10 ^ rest.length
      ≤ 10 ^ rest.length * (10 * 0 + (c.toNat - 48)) := Nat.le_mul_of_pos_right _ (by omega)
    _ ≤ _ := Nat.le_add_right _ _

/-- A number that fits into its column fills it. -/
theorem SetRight.length {width n : Nat} {text : List Char} (h : SetRight width n text)
    (fits : n < 10 ^ width) (some : 0 < width) : text.length = width := by
  cases h with
  | @intro digits written value spare =>
    have short : digits.length ≤ width := by
      cases digits with
      | nil => exact Nat.zero_le _
      | cons c rest =>
        by_cases zero : c = '0'
        · rw [spare (by rw [zero]; rfl)]
          exact some
        · have least : 10 ^ rest.length ≤ _ := pow_le_ofDigitChars written.head zero
          rw [value] at least
          exact (Nat.pow_lt_pow_iff_right (by omega)).mp (Nat.lt_of_le_of_lt least fits)
    rw [List.length_append, List.length_replicate]
    omega

theorem toList_zeroFilled (width n : Nat) : (Column.zeroFilled width n).toList =
    List.replicate (width - (Nat.toDigits 10 n).length) '0' ++ Nat.toDigits 10 n := by
  unfold Column.zeroFilled
  rw [Nat.toString_eq_ofList_toDigits, String.toList_append, String.toList_ofList,
    String.toList_ofList, String.length_ofList]

/-- Leading zeros are digits, and do not count. -/
theorem isDigits_zeroFilled (width n : Nat) : IsDigits (Column.zeroFilled width n).toList ∧
    Nat.ofDigitChars 10 (Column.zeroFilled width n).toList 0 = n := by
  obtain ⟨some, digits⟩ := isDigits_toDigits n
  rw [toList_zeroFilled]
  refine ⟨⟨List.append_ne_nil_of_right_ne_nil _ some, ?_⟩, ?_⟩
  · intro c m
    rcases List.mem_append.mp m with zero | m
    · rw [List.eq_of_mem_replicate zero]
      decide
    · exact digits c m
  · rw [Nat.ofDigitChars_append, Nat.ofDigitChars_replicate_zero, Nat.mul_zero,
      Nat.ofDigitChars_ten_toDigits]

theorem length_zeroFilled {width n : Nat} (some : 0 < width) (fits : n < 10 ^ width) :
    (Column.zeroFilled width n).toList.length = width := by
  have digits := (Nat.length_toDigits_le_iff (by omega) some).mpr fits
  rw [toList_zeroFilled, List.length_append, List.length_replicate]
  omega

end Decimal

/-- The text of a round trip time: milliseconds, a point and three decimals. -/
inductive RttText (d : Span) : String → Prop
  | intro {text : String} {whole fraction : List Char} {millis : Nat} :
      text.toList = whole ++ '.' :: fraction ++ "ms ".toList →
      Decimal.SetRight 3 millis whole → Decimal.IsDigits fraction → fraction.length = 3 →
      1000 * millis + Nat.ofDigitChars 10 fraction 0 = d.nanos / 1000 → RttText d text

theorem rttText_rtt (d : Span) : RttText d (Report.rtt d) := by
  obtain ⟨digits, value⟩ := Decimal.isDigits_zeroFilled 3 (d.micros % 1000)
  refine .intro ?_ (Decimal.setRight_number 3 (d.micros / 1000)) digits
    (Decimal.length_zeroFilled (by omega) (by omega)) ?_
  · simp [Report.rtt]
  · rw [value]
    exact Nat.div_add_mod d.micros 1000

/-- What a hop line opens with. The local host answers for the hop that was being probed. -/
inductive Hop.Opens (h : Hop) : String → Prop
  | local {number : String} : h.responder = .local →
      Decimal.SetRight 2 h.ttl.toNat number.toList → h.Opens (number ++ "?: ")
  | confirmed {ttl : UInt8} {number : String} : h.responder ≠ .local → h.confirmed = some ttl →
      Decimal.SetRight 2 ttl.toNat number.toList → h.Opens (number ++ ":  ")
  | unconfirmed {number : String} : h.responder ≠ .local → h.confirmed = none →
      Decimal.SetRight 2 h.ttl.toNat number.toList → h.Opens (number ++ "?: ")

/-- The text that identifies a remote responder: its name, its address, or one with the other in
parentheses. What is not known shows as three question marks. -/
def identity (address : Option IpAddress) (name : Option String) : AddressMode → String
  | .host => name.getD "???"
  | .ip => (address.map IpAddress.text).getD "???"
  | .hostIp => name.getD "???" ++ " (" ++ (address.map IpAddress.text).getD "???" ++ ")"
  | .ipHost => (address.map IpAddress.text).getD "???" ++ " (" ++ name.getD "???" ++ ")"

theorem hostText_eq (address : Option IpAddress) (name : Option String) (mode : AddressMode) :
    Report.hostText address name mode = identity address name mode := by
  cases mode <;> rfl

/-- The column of the responder. Of a remote one with a text of `n` characters it has `52`
characters or `n + 1`, whichever is more. -/
inductive Hop.Identifies (h : Hop) (mode : AddressMode) : String → Prop
  | local : h.responder = .local →
      h.Identifies mode ("[LOCALHOST]" ++ Column.blanks 22)
  | remote {address : Option IpAddress} {name : Option String} {pad : Nat} :
      h.responder = .remote address name →
      (identity address name mode).length + pad =
        max 52 ((identity address name mode).length + 1) →
      h.Identifies mode (identity address name mode ++ Column.blanks pad)
  | unknown : h.responder = .unknown → h.Identifies mode ""

inductive Hop.Times (h : Hop) : String → Prop
  | untimed : h.rtt = none → h.Times ""
  | whole {d : Span} {text : String} : h.rtt = some d → h.broken = false → RttText d text →
      h.Times text
  | broken {d : Span} {text : String} : h.rtt = some d → h.broken = true → RttText d text →
      h.Times (text ++ "(This broken router returned corrupted payload) ")

namespace Hop
variable {h : Hop} {mode : AddressMode} {opening column : String}

/-- A number below a hundred leaves the opening at five characters. -/
theorem Opens.length (opens : h.Opens opening) (remote : h.responder ≠ .local)
    (low : h.number.toNat < 100) : opening.length = 5 := by
  have fits {ttl : UInt8} {number : String} (set : Decimal.SetRight 2 ttl.toNat number.toList)
      (low : ttl.toNat < 100) : number.length = 2 := by
    rw [← String.length_toList]
    exact set.length low (by omega)
  cases opens with
  | «local» here _ => exact absurd here remote
  | confirmed _ known set =>
    unfold Hop.number at low
    rw [known] at low
    rw [String.length_append, fits set low]
    rfl
  | unconfirmed _ unknown set =>
    unfold Hop.number at low
    rw [unknown] at low
    rw [String.length_append, fits set low]
    rfl

/-- Behind a remote responder there is a blank, and behind one with a short text the column ends
where it does for all of them. -/
theorem Identifies.remote_column (identifies : h.Identifies mode column)
    {address : Option IpAddress} {name : Option String}
    (remote : h.responder = .remote address name) :
    (∃ pad, 0 < pad ∧ column = identity address name mode ++ Column.blanks pad) ∧
      column.length = max 52 ((identity address name mode).length + 1) := by
  cases identifies with
  | «local» here =>
    rw [here] at remote
    cases remote
  | unknown nobody =>
    rw [nobody] at remote
    cases remote
  | remote here filled =>
    rw [here] at remote
    cases remote
    refine ⟨⟨_, by omega, rfl⟩, ?_⟩
    rw [String.length_append, Column.length_blanks, filled]

theorem opens_responder (h : Hop) (mode : AddressMode) : ∃ opening column,
    Report.responder h mode = opening ++ column ∧ h.Opens opening ∧ h.Identifies mode column := by
  have number (other : h.responder ≠ .local) : h.Opens (Report.hopNumber h) := by
    unfold Report.hopNumber
    cases confirmed : h.confirmed with
    | some ttl => exact .confirmed other confirmed (Decimal.setRight_number 2 ttl.toNat)
    | none => exact .unconfirmed other confirmed (Decimal.setRight_number 2 h.ttl.toNat)
  unfold Report.responder
  cases responder : h.responder with
  | «local» =>
    have localhost : Column.alignLeft Report.localColumn "[LOCALHOST]" ++ " " =
        "[LOCALHOST]" ++ Column.blanks 22 := by decide
    refine ⟨_, _, ?_, .local responder (Decimal.setRight_number 2 h.ttl.toNat), .local responder⟩
    simp only [String.append_assoc, localhost]
  | remote address name =>
    dsimp only
    rw [hostText_eq]
    refine ⟨_, _, rfl, number (by rw [responder]; nofun), .remote responder ?_⟩
    simp only [Report.hostColumn]
    omega
  | unknown =>
    exact ⟨_, "", by simp, number (by rw [responder]; nofun), .unknown responder⟩

theorem times_timing (h : Hop) : h.Times (match h.rtt with
    | none => ""
    | some d => Report.rtt d ++
        if h.broken then "(This broken router returned corrupted payload) " else "") := by
  cases timed : h.rtt with
  | none => exact .untimed timed
  | some d =>
    dsimp only
    cases broken : h.broken with
    | true => exact .broken timed broken (rttText_rtt d)
    | false =>
      have whole := Times.whole timed broken (rttText_rtt d)
      simpa using whole

end Hop

/-- A hop line opens with its number, right-aligned in two columns, and with a question mark unless
the hop is confirmed; the local host is never confirmed and shows the ttl of the probe. The text of
a remote responder is followed by blanks alone, up to a column of 52 characters or of one more than
the text, and so by one blank at least. Below a hundred hops, the round trip time behind a text that
fits stands at the same place in all lines. However long it is, it shows all its microseconds. -/
theorem hopLine_layout (h : Hop) (mode : AddressMode) :
    (∃ opening column timing : String,
      Report.eventLine (.hop h) mode =
        opening ++ column ++ timing ++ Report.status h.status ∧
      h.Opens opening ∧ h.Identifies mode column ∧ h.Times timing ∧
      ∀ address name, h.responder = .remote address name →
        let text := identity address name mode
        (∃ pad, 0 < pad ∧ column = text ++ Column.blanks pad) ∧
        column.length = max 52 (text.length + 1) ∧
        (h.number.toNat < 100 → text.length ≤ 51 → (opening ++ column).length = 57)) ∧
    ∀ d : Span, RttText d (Report.rtt d) := by
  refine ⟨?_, rttText_rtt⟩
  obtain ⟨opening, column, responder, opens, identifies⟩ := h.opens_responder mode
  refine ⟨opening, column, _, ?_, opens, identifies, h.times_timing, ?_⟩
  · rw [← responder]
    rfl
  · intro address name remote
    dsimp only
    obtain ⟨blank, width⟩ := identifies.remote_column remote
    refine ⟨blank, width, fun low fits => ?_⟩
    rw [String.length_append, opens.length (by rw [remote]; nofun) low, width]
    omega

namespace LongNames

/-- A router with a name of that many letters. -/
def hop (letters : Nat) : Hop where
  ttl := 7
  confirmed := some 7
  responder := .remote none (some (String.ofList (List.replicate letters 'r')))
  rtt := some ⟨12034567⟩
  broken := false
  status := .hop none

theorem length_identity (letters : Nat) : (identity none
    (some (String.ofList (List.replicate letters 'r'))) .host).length = letters := by
  simp [identity]

/-- A router of which both the address and the name are known. -/
def known : Hop := { hop 0 with responder := .remote (some (.v4 (.ofOctets 192 0 2 1))) (some "r") }

end LongNames

/-- The column is full with a name of 51 letters, and with one of 52 it grows. A blank remains.
With an address beside it a name comes first or second. -/
theorem hopLine_layout_longNames :
    (∃ opening column timing,
      Report.eventLine (.hop (LongNames.hop 51)) .host = opening ++ column ++ timing ++ "" ∧
        column.length = 52 ∧ (opening ++ column).length = 57) ∧
    (∃ opening column timing,
      Report.eventLine (.hop (LongNames.hop 52)) .host = opening ++ column ++ timing ++ "" ∧
        column.length = 53) ∧
    (∃ opening column timing pad,
      Report.eventLine (.hop LongNames.known) .hostIp = opening ++ column ++ timing ++ "" ∧
        column = "r (192.0.2.1)" ++ Column.blanks pad ∧ column.length = 52) ∧
    (∃ opening column timing pad,
      Report.eventLine (.hop LongNames.known) .ipHost = opening ++ column ++ timing ++ "" ∧
        column = "192.0.2.1 (r)" ++ Column.blanks pad ∧ column.length = 52) ∧
    RttText ⟨12034567⟩ " 12.034ms " := by
  obtain ⟨⟨opening, column, timing, line, -, -, -, remote⟩, times⟩ :=
    hopLine_layout (LongNames.hop 51) .host
  obtain ⟨⟨opening', column', timing', line', -, -, -, remote'⟩, -⟩ :=
    hopLine_layout (LongNames.hop 52) .host
  obtain ⟨⟨first, named, begun, nameFirst, -, -, -, both⟩, -⟩ :=
    hopLine_layout LongNames.known .hostIp
  obtain ⟨⟨first', named', begun', addressFirst, -, -, -, both'⟩, -⟩ :=
    hopLine_layout LongNames.known .ipHost
  obtain ⟨-, width, place⟩ := remote _ _ rfl
  obtain ⟨-, width', -⟩ := remote' _ _ rfl
  obtain ⟨⟨pad, -, text⟩, full, -⟩ := both _ _ rfl
  obtain ⟨⟨pad', -, text'⟩, full', -⟩ := both' _ _ rfl
  rw [LongNames.length_identity] at width width' place
  have printed : Report.rtt ⟨12034567⟩ = " 12.034ms " := by decide
  exact ⟨⟨opening, column, timing, line, width, place (by decide) (by decide)⟩,
    ⟨opening', column', timing', line', width'⟩,
    ⟨first, named, begun, pad, nameFirst, text, full⟩,
    ⟨first', named', begun', pad', addressFirst, text', full'⟩, printed ▸ times ⟨12034567⟩⟩

end HopTrace
