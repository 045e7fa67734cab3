import HopTrace.Text.Binary64
import HopTrace.Text.Decimal
import HopTrace.Toml.Node
import HopTrace.Toml.Text

/-!
# Numbers and dates

Integers are decimal with an optional sign, or hexadecimal, octal or binary without one,
and must fit a signed 64 bit word; underscores may stand between digits. A decimal number
with a fraction or an exponent is a float. Dates and times are checked for their ranges
and otherwise not kept, because no setting has one.

What has begun like a date, a time, a fraction, an exponent or a number of another base
must go on as one. A number that cannot be represented is wrong where it begins.
-/
namespace HopTrace.Toml

def isOctal (c : Char) : Bool := '0' ≤ c && c ≤ '7'

def isBinary (c : Char) : Bool := c = '0' || c = '1'

def isNonzero (c : Char) : Bool := '1' ≤ c && c ≤ '9'

def signed (negative : Bool) (n : Nat) : Int := if negative then -n else n

/-- An integer that fits its word. -/
def fitted (n : Int) : Option Scalar :=
  if Decimal.int64Low ≤ n ∧ n ≤ Decimal.int64High then some (.integer n) else none

/-- A decimal number in its parts. -/
structure DecimalNumber where
  negative : Bool
  digits : List Char
  exponent : Int

/-- The integer that a number without a fraction and an exponent is. -/
def DecimalNumber.integer (d : DecimalNumber) : Option Scalar :=
  fitted (signed d.negative (valueIn 10 d.digits))

/-- The float that a number is. A positive one that is too large is refused, a negative one
is infinite. -/
def DecimalNumber.float (d : DecimalNumber) : Option Scalar :=
  match Binary64.ofDecimal (valueIn 10 d.digits) d.exponent with
  | some f => some (.float (if d.negative then "-" ++ f.text else f.text))
  | none => if d.negative then some (.float "-inf") else none

def daysIn (year month : Nat) : Nat :=
  if month = 2 then
    if year % 4 = 0 ∧ (year % 100 ≠ 0 ∨ year % 400 = 0) then 29 else 28
  else if month = 4 ∨ month = 6 ∨ month = 9 ∨ month = 11 then 30
  else 31

namespace Reader

variable {α β : Type}

/-- Reads a value that must have a meaning: one that has none is wrong where it begins. -/
def representable (r : Reader α) (meaning : α → Option β) : Reader β := do
  let start ← offset
  match meaning (← r) with
  | some b => return b
  | none => stop start

/-- More digits, each with at most one underscore before it. -/
def moreDigits (isDigit : Char → Bool) : Reader (List Char) :=
  many (either (satisfy isDigit) (do expect "_"; commit (satisfy isDigit)))

def digits (isDigit : Char → Bool) : Reader (List Char) := do
  let first ← satisfy isDigit
  return first :: (← moreDigits isDigit)

/-- Whether the number is negative. -/
def sign : Reader Bool := do
  match ← optional (satisfy fun c => c = '+' || c = '-') with
  | some c => return c = '-'
  | none => return false

/-- A decimal integer without a leading zero. -/
def whole : Reader DecimalNumber := do
  let negative ← sign
  let ds ← either
    (do
      let first ← satisfy isNonzero
      return first :: (← moreDigits Char.isDigit))
    (do return [← satisfy Char.isDigit])
  return ⟨negative, ds, 0⟩

def exponent : Reader Int := do
  let _ ← satisfy fun c => c = 'e' || c = 'E'
  let negative ← sign
  return signed negative (valueIn 10 (← commit (digits Char.isDigit)))

def fraction : Reader (List Char) := do
  expect "."
  commit (digits Char.isDigit)

/-- A number with a fraction or an exponent. -/
def fractional : Reader DecimalNumber := do
  let n ← whole
  either
    (do return { n with exponent := ← exponent })
    (do
      let ds ← fraction
      let e ← optional exponent
      return { n with digits := n.digits ++ ds, exponent := e.getD 0 - ds.length })

/-- The special floats. -/
def special : Reader Scalar := do
  let negative ← sign
  either
    (do
      expect "inf"
      return .float (if negative then "-inf" else "inf"))
    (do
      expect "nan"
      return .float "NaN")

def float : Reader Scalar := either (representable fractional DecimalNumber.float) special

/-- An integer after the mark of its base. -/
def based (mark : String) (base : Nat) (isDigit : Char → Bool) : Reader Scalar :=
  commit <| representable (do expect mark; digits isDigit) fun ds => fitted (valueIn base ds)

def integer : Reader Scalar := do
  match (← rest).take 2 with
  | ['0', 'x'] => based "0x" 16 isHex
  | ['0', 'o'] => based "0o" 8 isOctal
  | ['0', 'b'] => based "0b" 2 isBinary
  | _ => representable whole DecimalNumber.integer

/-- A number of exactly `count` digits within a range. -/
def field (count low high : Nat) : Reader Nat :=
  judged (takeExactly count Char.isDigit) fun ds =>
    let n := valueIn 10 ds
    if low ≤ n ∧ n ≤ high then some n else none

def date : Reader Unit := do
  let year ← field 4 0 9999
  expect "-"
  let month ← commit (field 2 1 12)
  commit (expect "-")
  let _ ← commit (field 2 1 (daysIn year month))

/-- A time of day, with a fraction of a second or not. -/
def time : Reader Unit := do
  let _ ← field 2 0 23
  expect ":"
  commit do
    let _ ← field 2 0 59
    expect ":"
    let _ ← field 2 0 60
    let _ ← optional (do expect "."; takeSome Char.isDigit)

def timeOffset : Reader Unit :=
  either (do let _ ← satisfy fun c => c = 'Z' || c = 'z') do
    let _ ← satisfy fun c => c = '+' || c = '-'
    commit do
      let _ ← field 2 0 23
      expect ":"
      let _ ← field 2 0 59

/-- A date, a time or both. -/
def datetime : Reader Scalar := do
  either
    (do
      date
      let _ ← optional do
        let _ ← satisfy fun c => c = 'T' || c = 't' || c = ' '
        time
        optional timeOffset)
    time
  return .datetime

/-- A number or a date. -/
def number : Reader Scalar := either datetime (either float integer)

end Reader

end HopTrace.Toml
