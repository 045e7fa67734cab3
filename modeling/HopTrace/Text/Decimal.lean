/-!
# Decimal integers of a bounded range

A sign, which is optional, and at least one decimal digit. Leading zeros are free. The
text is judged from left to right: the first character that is no digit, or the first
digit that takes the value out of range, is the fault that is reported. A minus sign is a
fault where no negative number is in range.
-/
namespace HopTrace.Decimal

inductive Fault where
  | empty
  | invalidDigit
  | tooLarge
  | tooSmall
  deriving DecidableEq, Repr

def Fault.message : Fault → String
  | .empty => "cannot parse integer from empty string"
  | .invalidDigit => "invalid digit found in string"
  | .tooLarge => "number too large to fit in target type"
  | .tooSmall => "number too small to fit in target type"

def digitValue (c : Char) : Nat := c.toNat - '0'.toNat

/-- Reads digits onto a value that may not exceed `high`. -/
def readUp (high : Int) : Int → List Char → Except Fault Int
  | value, [] => .ok value
  | value, c :: rest =>
    if c.isDigit then
      let value := value * 10 + digitValue c
      if value > high then .error .tooLarge else readUp high value rest
    else .error .invalidDigit

/-- Reads digits onto a negative value that may not go below `low`. -/
def readDown (low : Int) : Int → List Char → Except Fault Int
  | value, [] => .ok value
  | value, c :: rest =>
    if c.isDigit then
      let value := value * 10 - digitValue c
      if value < low then .error .tooSmall else readDown low value rest
    else .error .invalidDigit

def readChars (low high : Int) : List Char → Except Fault Int
  | [] => .error .empty
  | ['+'] | ['-'] => .error .invalidDigit
  | '+' :: digits => readUp high 0 digits
  | '-' :: digits => if low < 0 then readDown low 0 digits else .error .invalidDigit
  | digits => readUp high 0 digits

/-- The integer from `low` to `high` that the text spells. -/
def read (low high : Int) (s : String) : Except Fault Int := readChars low high s.toList

/-- The least integer of a signed 64 bit word. -/
def int64Low : Int := -9223372036854775808

/-- The greatest integer of a signed 64 bit word. -/
def int64High : Int := 9223372036854775807

def readInt64 : String → Except Fault Int := read int64Low int64High

def readPort (s : String) : Option UInt16 :=
  match read 0 65535 s with
  | .ok n => some (UInt16.ofNat n.toNat)
  | .error _ => none

end HopTrace.Decimal
