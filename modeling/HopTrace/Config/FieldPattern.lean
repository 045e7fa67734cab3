import HopTrace.Text.Alphanumeric
import HopTrace.Text.Blank
import HopTrace.Text.Hex

/-!
# Patterns

A pattern describes texts: alternatives in parentheses, characters to choose from in
brackets, repetitions, and switches that hold until their group ends. Nothing is matched
here, but a text that is no pattern can be told from one that is.

A pattern is read character by character. Letters in any case, and the classes of digits,
blanks and words, can be asked for in patterns of bytes only, because no table says which
characters they are; in such patterns a character beyond the first 128 cannot be chosen
from. Every pattern may name the bounds of words, but only in one of bytes can they be
found.
-/
namespace HopTrace.FieldPattern

inductive Fault where
  | malformed
  | wordBound
  deriving DecidableEq, Repr

def Fault.message : Fault → String
  | .malformed => "error building NFA"
  | .wordBound =>
    "unsupported regex feature for DFAs: cannot build DFAs for regexes with Unicode word " ++
      "boundaries; switch to ASCII word boundaries, or heuristically enable Unicode word " ++
      "boundaries or use a different regex engine"

/-- What is switched on. -/
structure Mode where
  anyCase : Bool
  bytes : Bool
  /-- Blanks do not count, nor does what stands behind a number sign. -/
  spaced : Bool
  deriving DecidableEq, Repr

/-- A mode with the switches of a group; those behind a minus sign are switched off. -/
def Mode.switch (m : Mode) (on : Bool) : List Char → Mode
  | [] => m
  | '-' :: cs => m.switch false cs
  | 'i' :: cs => { m with anyCase := on }.switch on cs
  | 'u' :: cs => { m with bytes := !on }.switch on cs
  | 'x' :: cs => { m with spaced := on }.switch on cs
  | _ :: cs => m.switch on cs

def switches : List Char := ['i', 'm', 's', 'U', 'u', 'R', 'x', '-']

/-- Where a character stands. -/
inductive Site where
  | outside
  | bracket
  /-- At the end of a range in brackets. A range must begin with a single character. -/
  | rangeEnd (first : Option Char)
  deriving DecidableEq, Repr

/-- How far the reading of a pattern has got. -/
inductive Phase where
  /-- Outside of brackets, behind something that can be repeated or not. -/
  | item (repeatable : Bool)
  /-- Behind an opening parenthesis, behind a question mark there and behind a `P` there. -/
  | parenthesis
  | question
  | letter
  /-- In the name of a group and in its switches, the last character first. -/
  | name (cs : List Char)
  | switch (cs : List Char)
  /-- Behind an opening bracket, with a circumflex or without and possibly with dashes. -/
  | bracket (negatable empty : Bool)
  | bracketItem
  /-- Behind something in brackets that a range may begin with. -/
  | rangeStart (first : Option Char) (escaped : Bool)
  | dash (first : Option Char)
  | escape (site : Site)
  /-- In a hexadecimal number of so many digits. -/
  | number (site : Site) (digits missing value : Nat)
  | comment (back : Phase)
  deriving DecidableEq, Repr

/-- Whether blanks may be put in. -/
def Phase.isSpaced : Phase → Bool
  | .item _ | .parenthesis | .bracket .. | .bracketItem | .rangeStart .. | .dash _ => true
  | _ => false

/-- Whether a pattern may end. -/
def Phase.isFinal : Phase → Bool
  | .item _ => true
  | .comment back => back.isFinal
  | _ => false

structure State where
  phase : Phase
  mode : Mode
  /-- The modes outside of the open groups, the innermost first. -/
  outer : List Mode
  names : List (List Char)
  brackets : Nat
  wordBound : Bool
  deriving DecidableEq, Repr

namespace State

def start : State := ⟨.item false, ⟨false, false, false⟩, [], [], 0, false⟩

def enter (s : State) (phase : Phase) : State := { s with phase }

/-- Whether letters would have to be known in both cases. -/
def needsCases (s : State) : Bool := s.mode.anyCase && !s.mode.bytes

def openGroup (s : State) (inside : Mode) : State :=
  { s with phase := .item false, mode := inside, outer := s.mode :: s.outer }

def closeGroup (s : State) : Option State :=
  match s.outer with
  | [] => none
  | mode :: outer => some { s with phase := .item true, mode, outer }

def openBracket (s : State) : Option State :=
  if s.needsCases then none
  else some { s with phase := .bracket true true, brackets := s.brackets + 1 }

def closeBracket (s : State) : State :=
  let phase := if s.brackets ≤ 1 then .item true else .bracketItem
  { s with phase, brackets := s.brackets - 1 }

/-- Takes a single character, which may be written with a backslash. -/
def character (s : State) (site : Site) (escaped : Bool) (c : Char) : Option State :=
  let choosable := !s.mode.bytes || c.toNat < 128
  match site with
  | .outside => if s.needsCases then none else some (s.enter (.item true))
  | .bracket => if choosable then some (s.enter (.rangeStart (some c) escaped)) else none
  | .rangeEnd (some first) =>
    if choosable && first ≤ c then some (s.enter .bracketItem) else none
  | .rangeEnd none => none

/-- Takes a class of characters, which can be known of bytes only. -/
def byteClass (s : State) (site : Site) : Option State :=
  if s.mode.bytes then
    match site with
    | .outside => some (s.enter (.item true))
    | .bracket => some (s.enter (.rangeStart none true))
    | .rangeEnd _ => none
  else none

/-- Takes a condition on what is around, which is nothing to choose from. -/
def condition (s : State) (site : Site) : Option State :=
  if site = .outside then some (s.enter (.item true)) else none

/-- Takes the character behind a backslash. -/
def escaped (s : State) (site : Site) (c : Char) : Option State :=
  match c with
  | 'a' => s.character site true '\x07'
  | 'f' => s.character site true '\x0c'
  | 'n' => s.character site true '\n'
  | 'r' => s.character site true '\r'
  | 't' => s.character site true '\t'
  | 'v' => s.character site true '\x0b'
  | 'x' => some (s.enter (.number site 2 2 0))
  | 'u' => some (s.enter (.number site 4 4 0))
  | 'U' => some (s.enter (.number site 8 8 0))
  | 'd' | 's' | 'w' => s.byteClass site
  | 'A' | 'z' => s.condition site
  | 'b' | 'B' | '<' | '>' =>
    { s with wordBound := s.wordBound || !s.mode.bytes }.condition site
  | _ => if c.isAlphanum || c.toNat ≥ 128 then none else s.character site true c

/-- Takes a digit of a number. A number of two digits is a byte where bytes are meant, and
then it must be one of the first 128. -/
def digit (s : State) (site : Site) (digits missing value : Nat) (c : Char) : Option State :=
  match Hex.digitValue? c with
  | none => none
  | some d =>
    let value := value * 16 + d
    if 1 < missing then some (s.enter (.number site digits (missing - 1) value))
    else if !value.isValidChar || (s.mode.bytes && digits = 2 && 128 ≤ value) then none
    else s.character site true (Char.ofNat value)

def item (s : State) (repeatable : Bool) (c : Char) : Option State :=
  match c with
  | '(' => some (s.enter .parenthesis)
  | ')' => s.closeGroup
  | '[' => s.openBracket
  | '|' => some (s.enter (.item false))
  | '*' | '+' | '?' => if repeatable then some s else none
  | '\x7b' => none
  | '\\' => some (s.enter (.escape .outside))
  | '^' | '$' => some (s.enter (.item true))
  | '.' => if s.mode.bytes then none else some (s.enter (.item true))
  | _ => s.character .outside false c

def bracketItem (s : State) (c : Char) : Option State :=
  match c with
  | '[' => s.openBracket
  | ']' => some s.closeBracket
  | '\\' => some (s.enter (.escape .bracket))
  | _ => s.character .bracket false c

/-- Behind an opening bracket a closing one stands for itself. -/
def bracketStart (s : State) (negatable empty : Bool) (c : Char) : Option State :=
  match c with
  | '^' =>
    if !negatable then s.bracketItem c
    else if s.mode.bytes then none
    else some (s.enter (.bracket false empty))
  | '-' => some (s.enter (.bracket false false))
  | ']' => if empty then some (s.enter .bracketItem) else s.bracketItem c
  | _ => s.bracketItem c

/-- A doubled dash, ampersand or tilde stands between two choices. -/
def rangeStart (s : State) (first : Option Char) (escaped : Bool) (c : Char) : Option State :=
  if !escaped && first = some c && (c = '-' || c = '&' || c = '~') then some (s.enter .bracketItem)
  else if c = '-' then some (s.enter (.dash first))
  else s.bracketItem c

def dash (s : State) (first : Option Char) (c : Char) : Option State :=
  match c with
  | ']' => some s.closeBracket
  | '-' => some (s.enter .bracketItem)
  | '\\' => some (s.enter (.escape (.rangeEnd first)))
  | _ => s.character (.rangeEnd first) false c

def name (s : State) (cs : List Char) (c : Char) : Option State :=
  if c = '>' then
    if cs.isEmpty || s.names.contains cs then none
    else some { s.openGroup s.mode with names := cs :: s.names }
  else if c = '_' || isAlphabetic c ||
      (!cs.isEmpty && (isAlphanumeric c || c = '.' || c = '[' || c = ']')) then
    some (s.enter (.name (c :: cs)))
  else none

def switching (s : State) (cs : List Char) (c : Char) : Option State :=
  let mode := s.mode.switch true cs.reverse
  if c = ':' then if cs.head? = some '-' then none else some (s.openGroup mode)
  else if c = ')' then
    if cs.isEmpty || cs.head? = some '-' then none else some { s with phase := .item false, mode }
  else if switches.contains c && !cs.contains c then some (s.enter (.switch (c :: cs)))
  else none

def step (s : State) (c : Char) : Option State :=
  if s.mode.spaced && s.phase.isSpaced && isBlank c then some s
  else if s.mode.spaced && s.phase.isSpaced && c = '#' then some (s.enter (.comment s.phase))
  else
    match s.phase with
    | .item repeatable => s.item repeatable c
    | .parenthesis =>
      if c = '?' then some (s.enter .question) else (s.openGroup s.mode).item false c
    | .question =>
      if c = '<' then some (s.enter (.name []))
      else if c = 'P' then some (s.enter .letter)
      else s.switching [] c
    | .letter => if c = '<' then some (s.enter (.name [])) else none
    | .name cs => s.name cs c
    | .switch cs => s.switching cs c
    | .bracket negatable empty => s.bracketStart negatable empty c
    | .bracketItem => s.bracketItem c
    | .rangeStart first escaped => s.rangeStart first escaped c
    | .dash first => s.dash first c
    | .escape site => s.escaped site c
    | .number site digits missing value => s.digit site digits missing value c
    | .comment back => some (if c = '\n' then s.enter back else s)

end State

/-- What is wrong with a pattern, if anything is. -/
def fault? (pattern : List Char) : Option Fault :=
  match pattern.foldlM State.step .start with
  | none => some .malformed
  | some s =>
    if !s.phase.isFinal || !s.outer.isEmpty then some .malformed
    else if s.wordBound then some .wordBound
    else none

end HopTrace.FieldPattern
