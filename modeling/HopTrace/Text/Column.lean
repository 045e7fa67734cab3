/-!
# Text set in columns

Padding counts characters, not bytes, and never cuts: text that is too long for its
column simply extends past it.
-/
namespace HopTrace.Column

def blanks (n : Nat) : String := String.ofList (List.replicate n ' ')

/-- Blanks before the text, up to the width. -/
def alignRight (width : Nat) (s : String) : String := blanks (width - s.length) ++ s

/-- Blanks after the text, up to the width. -/
def alignLeft (width : Nat) (s : String) : String := s ++ blanks (width - s.length)

/-- A number with leading zeros, up to the width. -/
def zeroFilled (width n : Nat) : String :=
  let digits := toString n
  String.ofList (List.replicate (width - digits.length) '0') ++ digits

def number (width n : Nat) : String := alignRight width (toString n)

@[simp] theorem length_blanks (n : Nat) : (blanks n).length = n := by
  simp [blanks]

theorem length_alignLeft (width : Nat) (s : String) :
    (alignLeft width s).length = max width s.length := by
  simp only [alignLeft, String.length_append, length_blanks]
  omega

theorem length_alignRight (width : Nat) (s : String) :
    (alignRight width s).length = max width s.length := by
  simp only [alignRight, String.length_append, length_blanks]
  omega

end HopTrace.Column
