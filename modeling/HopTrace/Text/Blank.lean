/-!
# Blanks

Blanks are the characters that the standard counts as white space: the blank, the tab, the
ends of lines and pages, and the spaces of other widths.
-/
namespace HopTrace

/-- The code points of blanks, as ranges, ends included, in ascending order. -/
def blankCodes : List (Nat × Nat) :=
  [(0x9, 0xd), (0x20, 0x20), (0x85, 0x85), (0xa0, 0xa0), (0x1680, 0x1680), (0x2000, 0x200a),
   (0x2028, 0x2029), (0x202f, 0x202f), (0x205f, 0x205f), (0x3000, 0x3000)]

def isBlank (c : Char) : Bool :=
  blankCodes.any fun (first, last) => first ≤ c.toNat && c.toNat ≤ last

/-- A text without the blanks around it. -/
def withoutBlanks (cs : List Char) : List Char :=
  ((cs.dropWhile isBlank).reverse.dropWhile isBlank).reverse

end HopTrace
