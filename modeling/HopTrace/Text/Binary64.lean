/-!
# Decimal numbers in double precision

A decimal number is rounded to the nearest double, ties to the even significand, and shown
by the fewest digits that still round to it; of two such decimals the nearer is taken, and
the larger if both are equally near. All arithmetic is on natural numbers. The text is
positional whatever the magnitude, and always has a decimal point.
-/
namespace HopTrace.Binary64

/-- The value `significand * 2 ^ exponent`. -/
structure Finite where
  significand : Nat
  exponent : Int
  deriving DecidableEq, Repr

/-- A nonnegative fraction. -/
structure Ratio where
  num : Nat
  den : Nat
  deriving DecidableEq, Repr

namespace Ratio

/-- The fraction times a power of `base`, which may be negative. -/
def scale (base : Nat) (r : Ratio) (e : Int) : Ratio :=
  if 0 ≤ e then ⟨r.num * base.pow e.toNat, r.den⟩ else ⟨r.num, r.den * base.pow (-e).toNat⟩

def le (a b : Ratio) : Bool := a.num * b.den ≤ b.num * a.den

def lt (a b : Ratio) : Bool := a.num * b.den < b.num * a.den

/-- The nearest integer, ties to even. -/
def round (r : Ratio) : Nat :=
  let whole := r.num / r.den
  let twice := 2 * (r.num % r.den)
  if twice > r.den ∨ (twice = r.den ∧ whole % 2 = 1) then whole + 1 else whole

/-- The distance between two fractions. -/
def distance (a b : Ratio) : Ratio :=
  let x := a.num * b.den
  let y := b.num * a.den
  ⟨(x - y) + (y - x), a.den * b.den⟩

/-- The exponent `e` with `2 ^ e ≤ r < 2 ^ (e + 1)`, for a fraction that is not zero. -/
def log2 (r : Ratio) : Int :=
  let e : Int := (Nat.log2 r.num : Int) - Nat.log2 r.den
  if le (scale 2 ⟨1, 1⟩ e) r then e else e - 1

end Ratio

/-- Significands are below twice this, and at least this unless the exponent is the least. -/
def hiddenBit : Nat := 4503599627370496

/-- The nearest double, unless the number is too large. -/
def nearest (r : Ratio) : Option Finite :=
  if r.num = 0 then some ⟨0, -1074⟩
  else
    let exponent := max (r.log2 - 52) (-1074)
    let significand := (r.scale 2 (-exponent)).round
    let f := if significand = 2 * hiddenBit then Finite.mk hiddenBit (exponent + 1)
      else ⟨significand, exponent⟩
    if f.exponent > 971 then none else some f

namespace Finite

def value (f : Finite) : Ratio := Ratio.scale 2 ⟨f.significand, 1⟩ f.exponent

/-- Halfway down to the next smaller double. -/
def lower (f : Finite) : Ratio :=
  if f.significand = hiddenBit ∧ f.exponent > -1074 then
    Ratio.scale 2 ⟨4 * f.significand - 1, 1⟩ (f.exponent - 2)
  else Ratio.scale 2 ⟨2 * f.significand - 1, 1⟩ (f.exponent - 1)

/-- Halfway up to the next larger double. -/
def upper (f : Finite) : Ratio := Ratio.scale 2 ⟨2 * f.significand + 1, 1⟩ (f.exponent - 1)

/-- Whether a number rounds to this double. -/
def covers (f : Finite) (r : Ratio) : Bool :=
  if f.significand % 2 = 0 then f.lower.le r && r.le f.upper
  else f.lower.lt r && r.lt f.upper

/-- The least `e` with `value < 10 ^ e`, searched downwards. -/
def magnitude (f : Finite) : Nat → Int → Int
  | 0, e => e
  | fuel + 1, e => if f.value.lt (Ratio.scale 10 ⟨1, 1⟩ (e - 1)) then magnitude f fuel (e - 1) else e

/-- The best decimal of `count` digits, if one rounds to the double. -/
def decimalOf (f : Finite) (top : Int) (count : Nat) : Option Nat :=
  let unit : Int := top - count
  let below := let r := f.value.scale 10 (-unit); r.num / r.den
  let at_ (n : Nat) : Ratio := Ratio.scale 10 ⟨n, 1⟩ unit
  let near (n : Nat) : Bool := f.covers (at_ n)
  if near below then
    if near (below + 1) then
      if (f.value.distance (at_ below)).lt (f.value.distance (at_ (below + 1))) then some below
      else some (below + 1)
    else some below
  else if near (below + 1) then some (below + 1)
  else none

/-- The shortest digits and the place of the point before which they stand, trying `left`
more lengths from `count` on. -/
def shortest (f : Finite) (top : Int) : (left count : Nat) → Nat × Int
  | 0, count => ((f.value.scale 10 (count - top)).round, top - count)
  | left + 1, count =>
    match f.decimalOf top count with
    | some n => (n, top - count)
    | none => shortest f top left (count + 1)

/-- Digits times a power of ten, without an exponent. -/
def positional (digits : Nat) (unit : Int) : String :=
  let ds := Nat.toDigits 10 digits
  if 0 ≤ unit then String.ofList (ds ++ List.replicate unit.toNat '0') ++ ".0"
  else
    let places := (-unit).toNat
    let padded := List.replicate (places + 1 - ds.length) '0' ++ ds
    let whole := padded.take (padded.length - places)
    String.ofList whole ++ "." ++ String.ofList (padded.drop (padded.length - places))

/-- Zeros at the end of the digits say nothing. -/
def trim : (fuel digits : Nat) → Int → Nat × Int
  | 0, digits, unit => (digits, unit)
  | fuel + 1, digits, unit =>
    if digits ≠ 0 ∧ digits % 10 = 0 then trim fuel (digits / 10) (unit + 1) else (digits, unit)

def text (f : Finite) : String :=
  if f.significand = 0 then "0.0"
  else
    let top := f.magnitude 700 310
    let (digits, unit) := f.shortest top 17 1
    let (digits, unit) := trim 20 digits unit
    positional digits unit

end Finite

/-- The double nearest to `digits * 10 ^ exponent`, unless it is too large. Exponents far
outside the range of doubles are settled without computing powers. -/
def ofDecimal (digits : Nat) (exponent : Int) : Option Finite :=
  let size : Int := (Nat.toDigits 10 digits).length + exponent
  if digits = 0 ∨ size < -400 then some ⟨0, -1074⟩
  else if size > 400 then none
  else nearest (Ratio.scale 10 ⟨digits, 1⟩ exponent)

end HopTrace.Binary64
