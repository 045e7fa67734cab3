import HopTrace.Text.Quoted
import HopTrace.Toml.Node

/-!
# Reading values out of a document

A decoder is given a value and the place it stands at, and yields what the value means or
a fault with a place. A value that was never written out stands at the key it belongs to.

A record is read from a table by the names of its fields, entry by entry in the order of
the table, and the first name that is not among them is a fault. A record may also be
written as an array that gives its fields in order; items beyond the last field are free.
-/
namespace HopTrace.Toml

inductive Fault where
  /-- The document cannot be read at all. -/
  | malformed
  | unknownField (name : String) (known : List String)
  | unknownVariant (name : String) (known : List String)
  | invalidType (found expected : String)
  | invalidValue (found : Int) (expected : String)
  /-- A value that no choice and no field can be read from. -/
  | unsuitable
  deriving DecidableEq, Repr

structure DocumentError where
  fault : Fault
  offset : Nat
  deriving DecidableEq, Repr

/-- Names to choose from. -/
def oneOf (names : List String) : String :=
  let quoted := names.map fun name => "`" ++ name ++ "`"
  match quoted with
  | [] => "nothing"
  | [a] => "expected " ++ a
  | [a, b] => "expected " ++ a ++ " or " ++ b
  | _ => "expected one of " ++ ", ".intercalate quoted

/-- The text of a fault, for those that name what was found. -/
def Fault.message? : Fault → Option String
  | .unknownField name known => some ("unknown field `" ++ name ++ "`, " ++ oneOf known)
  | .unknownVariant name known => some ("unknown variant `" ++ name ++ "`, " ++ oneOf known)
  | .invalidType found expected =>
    some ("invalid type: " ++ found ++ ", expected " ++ expected)
  | .invalidValue found expected =>
    some ("invalid value: integer `" ++ toString found ++ "`, expected " ++ expected)
  | .malformed | .unsuitable => none

def Scalar.describe : Scalar → String
  | .string s => "string " ++ Quoted.encode s
  | .integer n => "integer `" ++ toString n ++ "`"
  | .float text => "floating point `" ++ text ++ "`"
  | .boolean b => "boolean `" ++ toString b ++ "`"
  | .datetime => "map"

def Node.describe : Node → String
  | .scalar _ value => value.describe
  | .array .. | .tables .. => "sequence"
  | .table .. => "map"

/-- Reads a value that stands at an offset. -/
abbrev Decoder (α : Type) := Nat → Node → Except DocumentError α

namespace Decoder

variable {α ρ : Type}

/-- Reads a value, at its own place if it has one. -/
def run (d : Decoder α) (fallback : Nat) (node : Node) : Except DocumentError α :=
  d (node.offset?.getD fallback) node

def fail (offset : Nat) (fault : Fault) : Except DocumentError α := .error ⟨fault, offset⟩

def mismatch (expected : String) (offset : Nat) (node : Node) : Except DocumentError α :=
  fail offset (.invalidType node.describe expected)

def boolean : Decoder Bool := fun offset node =>
  match node with
  | .scalar _ (.boolean b) => .ok b
  | _ => mismatch "a boolean" offset node

def string : Decoder String := fun offset node =>
  match node with
  | .scalar _ (.string s) => .ok s
  | _ => mismatch "a string" offset node

/-- A number of at most `high`, which is described as `expected`. -/
def bounded (high : Nat) (expected : String) : Decoder Nat := fun offset node =>
  match node with
  | .scalar _ (.integer n) =>
    if 0 ≤ n ∧ n ≤ high then .ok n.toNat else fail offset (.invalidValue n expected)
  | _ => mismatch expected offset node

def uint8 : Decoder UInt8 := fun offset node => UInt8.ofNat <$> bounded 255 "u8" offset node

def uint16 : Decoder UInt16 := fun offset node => UInt16.ofNat <$> bounded 65535 "u16" offset node

def uint32 : Decoder UInt32 := fun offset node =>
  UInt32.ofNat <$> bounded 4294967295 "u32" offset node

def named (choices : List (String × α)) (name : String) (offset : Nat) : Except DocumentError α :=
  match choices.lookup name with
  | some a => .ok a
  | none => fail offset (.unknownVariant name (choices.map (·.1)))

/-- Whether a value has nothing in it. -/
def isEmpty : Node → Bool
  | .scalar .. => false
  | .array _ items | .tables _ items => items.isEmpty
  | .table _ _ entries => entries.isEmpty

/-- A choice by its name, or by a table whose only key is that name and holds nothing. -/
def choice (choices : List (String × α)) : Decoder α := fun offset node =>
  match node with
  | .scalar _ (.string name) => named choices name offset
  | .table _ _ [(key, value)] => do
    let a ← named choices key.name key.offset
    if isEmpty value then return a else fail (value.offset?.getD offset) .unsuitable
  | _ => fail offset .unsuitable

/-- A field of a record: its name, and how to set it from a value. -/
structure Field (ρ : Type) where
  name : String
  read : ρ → Decoder ρ

/-- A field that is set to what a decoder yields. -/
def Field.of (name : String) (d : Decoder α) (set : ρ → α → ρ) : Field ρ where
  name := name
  read r := fun offset node => set r <$> d offset node

def readEntry (fields : List (Field ρ)) (r : ρ) (entry : Key × Node) : Except DocumentError ρ :=
  match fields.find? (·.name = entry.1.name) with
  | some f => (f.read r).run entry.1.offset entry.2
  | none => fail entry.1.offset (.unknownField entry.1.name (fields.map (·.name)))

/-- Fields in order; one without an item is a fault. -/
def readItems (offset : Nat) : List (Field ρ) → List Node → ρ → Except DocumentError ρ
  | [], _, r => .ok r
  | _ :: _, [], _ => fail offset .unsuitable
  | f :: fields, item :: items, r => do
    readItems offset fields items (← (f.read r).run offset item)

/-- The only field of a date. -/
def dateField : String := "$__toml_private_datetime"

/-- A record described as `title`, which starts out as `start`. -/
def record (title : String) (fields : List (Field ρ)) (start : ρ) : Decoder ρ :=
  fun offset node =>
    match node with
    | .table _ _ entries => entries.foldlM (readEntry fields) start
    | .array _ items | .tables _ items => readItems offset fields items start
    | .scalar _ .datetime => fail offset (.unknownField dateField (fields.map (·.name)))
    | .scalar .. => mismatch title offset node

end Decoder

end HopTrace.Toml
