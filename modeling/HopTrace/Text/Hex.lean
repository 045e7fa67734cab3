/-!
# Bytes in hexadecimal

Two lower case digits to a byte, most significant first.
-/
namespace HopTrace.Hex

def digit (n : Nat) : Char := (Nat.toDigits 16 (n % 16)).headD '0'

def byte (b : UInt8) : List Char := [digit (b.toNat / 16), digit b.toNat]

def encode (bytes : List UInt8) : String := String.ofList (bytes.flatMap byte)

/-- The bytes separated by blanks, for reading. -/
def spaced (bytes : List UInt8) : String :=
  " ".intercalate (bytes.map fun b => String.ofList (byte b))

def digitValue? (c : Char) : Option Nat :=
  if c.isDigit then some (c.toNat - '0'.toNat)
  else if 'a' ≤ c ∧ c ≤ 'f' then some (c.toNat - 'a'.toNat + 10)
  else if 'A' ≤ c ∧ c ≤ 'F' then some (c.toNat - 'A'.toNat + 10)
  else none

def decodeDigits : List Char → Option (List UInt8)
  | [] => some []
  | [_] => none
  | high :: low :: rest => do
    let h ← digitValue? high
    let l ← digitValue? low
    return UInt8.ofNat (h * 16 + l) :: (← decodeDigits rest)

def decode? (s : String) : Option (List UInt8) := decodeDigits s.toList

end HopTrace.Hex
