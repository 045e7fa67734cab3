import HopTrace.Config.FieldPattern
import HopTrace.Text.Decimal

/-!
# Filters of the log

A filter is a list of directives with commas between them. A directive is a level, or a
target with the level it is logged at; between the two may stand a span in brackets, with
a field in braces. Nothing is known about targets, so any name will do, but a level must be
one, brackets and braces must be closed, and the value of a field must be a pattern or a
number. A directive that is wrong is left out, and the user is told so.

A directive is read without the blanks around it, but its parts are cut out of the whole at
the positions that were read. So blanks in front of a directive move its parts, and blanks
behind it belong to its level. A part that would begin or end inside a character cannot be
cut out, and then the reading of the filter breaks off.
-/
namespace HopTrace.LogFilter

inductive Fault where
  | malformed
  | unknownLevel
  | field (fault : FieldPattern.Fault)
  deriving DecidableEq, Repr

def Fault.message : Fault → String
  | .malformed => "invalid filter directive"
  | .unknownLevel =>
    "error parsing level filter: expected one of \"off\", \"error\", \"warn\", \"info\", " ++
      "\"debug\", \"trace\", or a number 0-5"
  | .field fault => "invalid field filter: " ++ fault.message

/-- Why a directive is not taken. -/
inductive Refusal where
  | ignored (fault : Fault)
  /-- A part begins or ends inside a character. -/
  | uncuttable
  deriving DecidableEq, Repr

def levelNames : List String := ["off", "error", "warn", "info", "debug", "trace"]

/-- Whether a text names a level: a name in any case, or a number up to five. -/
def isLevel (s : String) : Bool :=
  levelNames.contains s.toLower || (Decimal.read 0 5 s).toBool

def unsigned : List Char → List Char
  | '+' :: cs | '-' :: cs => cs
  | cs => cs

/-- Whether a text is an exponent or nothing. -/
def isExponent : List Char → Bool
  | [] => true
  | e :: cs => e.toLower = 'e' && !(unsigned cs).isEmpty && (unsigned cs).all Char.isDigit

/-- Whether a text is a number, which may be infinite or none at all. -/
def isNumber (cs : List Char) : Bool :=
  let cs := unsigned cs
  let whole := cs.takeWhile Char.isDigit
  ["inf", "infinity", "nan"].contains (String.ofList cs).toLower ||
    match cs.dropWhile Char.isDigit with
    | '.' :: rest =>
      !(whole ++ rest.takeWhile Char.isDigit).isEmpty && isExponent (rest.dropWhile Char.isDigit)
    | rest => !whole.isEmpty && isExponent rest

/-- What is wrong with a field, a name that may be followed by an equals sign and a value. -/
def fieldFault? (field : List Char) : Option Fault :=
  match field, field.dropWhile (· ≠ '=') with
  | [], _ => some .malformed
  | _, [] => none
  | _, _ :: value =>
    let value := value.takeWhile (· ≠ '=')
    if isNumber value then none else (FieldPattern.fault? value).map .field

/-- A text in two parts, the first of `n` bytes. -/
def cutAt : Nat → List Char → Option (List Char × List Char)
  | 0, cs => some ([], cs)
  | _ + 1, [] => none
  | n + 1, c :: cs =>
    if c.utf8Size ≤ n + 1 then
      (cutAt (n + 1 - c.utf8Size) cs).map fun (front, back) => (c :: front, back)
    else none

/-- The characters from a position on, which is counted in bytes. -/
structure Place where
  position : Nat
  rest : List Char
  deriving DecidableEq, Repr

namespace Place

/-- The next place where one of some characters stands, or the end. -/
def seek (stops : List Char) : Nat → List Char → Place
  | n, [] => ⟨n, []⟩
  | n, c :: cs => if stops.contains c then ⟨n, c :: cs⟩ else seek stops (n + c.utf8Size) cs

def before (p : Place) (stops : List Char) : Place := seek stops p.position p.rest

end Place

/-- The part of a directive between two positions. -/
def part (directive : List Char) (start stop : Nat) : Except Refusal (List Char) :=
  match cutAt start directive with
  | none => .error .uncuttable
  | some (_, back) =>
    match cutAt (stop - start) back with
    | none => .error .uncuttable
    | some (front, _) => .ok front

/-- Checks the level at the end of a directive, which may be empty. -/
def checkLevel (directive : List Char) (start : Nat) : Except Refusal Unit :=
  match cutAt start directive with
  | none => .error .uncuttable
  | some (_, level) =>
    if level.isEmpty || isLevel (String.ofList level) then .ok ()
    else .error (.ignored .unknownLevel)

/-- Checks what follows a span: nothing or a level. -/
def checkEnd (directive : List Char) (p : Place) : Except Refusal Unit :=
  match p.rest with
  | [] => .ok ()
  | '=' :: _ => checkLevel directive (p.position + 1)
  | _ => .error (.ignored .malformed)

/-- Checks a field behind its opening brace, and what follows. -/
def checkField (directive : List Char) (p : Place) : Except Refusal Unit := do
  let stop := p.before ['\x7d']
  match stop.rest with
  | [] => throw (.ignored .malformed)
  | _ :: rest =>
    let field ← part directive p.position stop.position
    match fieldFault? field, rest with
    | some fault, _ => throw (.ignored fault)
    | none, ']' :: rest => checkEnd directive ⟨stop.position + 2, rest⟩
    | none, _ => throw (.ignored .malformed)

/-- Checks a span behind its opening bracket, and what follows. -/
def checkSpan (directive : List Char) (p : Place) : Except Refusal Unit := do
  let stop := p.before [']', '\x7b']
  match stop.rest with
  | [] => throw (.ignored .malformed)
  | c :: rest =>
    let _ ← part directive p.position stop.position
    let next : Place := ⟨stop.position + 1, rest⟩
    if c = ']' then checkEnd directive next else checkField directive next

def beginsTarget (c : Char) : Bool := isAlphanumeric c || c = '-' || c = ':' || c = '_'

/-- Checks a directive. One that is only a name needs no further look: it is a level or a
target. -/
def check (directive : List Char) : Except Refusal Unit := do
  match withoutBlanks directive with
  | [] => throw (.ignored .malformed)
  | '[' :: rest => checkSpan directive ⟨1, rest⟩
  | c :: rest =>
    if !beginsTarget c then throw (.ignored .malformed)
    let stop := (⟨0, c :: rest⟩ : Place).before ['=', '[']
    match stop.rest with
    | [] => return ()
    | c :: rest =>
      let _ ← part directive 0 stop.position
      if c = '=' then checkLevel directive (stop.position + 1)
      else checkSpan directive ⟨stop.position + 1, rest⟩

/-- What the user is told about a filter, and whether it could be read to its end. -/
structure Reading where
  complaints : List String
  complete : Bool
  deriving DecidableEq, Repr

/-- A line for each directive that is left out, up to one that cannot be read. -/
def readDirectives : List String → Reading
  | [] => ⟨[], true⟩
  | directive :: rest =>
    match check directive.toList with
    | .ok () => readDirectives rest
    | .error .uncuttable => ⟨[], false⟩
    | .error (.ignored fault) =>
      let reading := readDirectives rest
      let complaint := "ignoring `" ++ directive ++ "`: " ++ fault.message
      { reading with complaints := complaint :: reading.complaints }

def read (filter : String) : Reading :=
  readDirectives ((filter.splitOn ",").filter (· ≠ ""))

end HopTrace.LogFilter
