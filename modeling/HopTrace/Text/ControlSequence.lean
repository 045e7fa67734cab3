/-!
# Text without control sequences

What a user typed may hold characters that a terminal takes for commands. It is shown
without them: an escape character and the sequence it begins are left out, and so is every
control character but the tab and the ends of lines and pages.

A sequence ends as a terminal ends it: after an escape character and a few intermediate
characters by one other character, after a bracket by a letter or the like, and a sequence
that carries text of its own by an escape character, a command by the bell too. Cancel and
substitute end any sequence. Sequences are made of single bytes, and a character of several
bytes inside one is lost without effect, unless one of them is the byte that once ended a
text on its own.

A tab or the end of a line interrupts a sequence without text. In a message the sequence
has then ended; in what is written to a terminal it goes on at the next control character.
-/
namespace HopTrace.ControlSequence

/-- How far a sequence has got. -/
inductive State where
  /-- Outside of any sequence. -/
  | outside
  | escape
  | intermediate
  | bracket
  /-- At the numbers of a sequence for a device, in front of its text. -/
  | device
  | deviceNumber
  | deviceIntermediate
  /-- A command with text of its own. -/
  | command
  /-- Any other text that is meant for the terminal. -/
  | text
  /-- Text is shown in the middle of a sequence. -/
  | interrupted (state : State)
  deriving DecidableEq, Repr

/-- What becomes of a sequence that is interrupted. -/
inductive Interruption where
  | ends
  | suspends
  deriving DecidableEq, Repr

/-- Control characters that shape a text. -/
def isLayout (c : Char) : Bool := c = '\t' || c = '\n' || c = '\x0c' || c = '\r'

/-- Whether one of the bytes of a character ends a text. -/
def endsText (c : Char) : Bool := (String.utf8EncodeChar c).contains 0x9c

namespace State

/-- What a character of one byte that is no control character leads to. -/
def next (s : State) (c : Char) : State :=
  match s with
  | .outside => .outside
  | .escape =>
    if c ≤ '/' then .intermediate
    else if c = '[' then .bracket
    else if c = ']' then .command
    else if c = 'P' then .device
    else if c = 'X' ∨ c = '^' ∨ c = '_' then .text
    else .outside
  | .intermediate => if c ≤ '/' then .intermediate else .outside
  | .bracket => if c ≤ '?' then .bracket else .outside
  | .device =>
    if c ≤ '/' then .deviceIntermediate else if c ≤ '?' then .deviceNumber else .text
  | .deviceNumber =>
    if c ≤ '/' then .deviceIntermediate else if c ≤ ';' then .deviceNumber else .text
  | .deviceIntermediate => if c ≤ '/' then .deviceIntermediate else .text
  | .command => .command
  | .text => .text
  | .interrupted s => .interrupted s

/-- Whether an ordinary character is shown. -/
def shows : State → Bool
  | .outside | .interrupted _ => true
  | _ => false

/-- Whether the ends of lines are part of the sequence. -/
def carriesText : State → Bool
  | .device | .deviceNumber | .deviceIntermediate | .command | .text => true
  | _ => false

/-- The state after a tab or the end of a line is shown. -/
def interrupt (s : State) (i : Interruption) : State :=
  match s, i with
  | .outside, _ | _, .ends => .outside
  | .interrupted s, .suspends => .interrupted s
  | s, .suspends => .interrupted s

/-- The state after a control character without an effect of its own. -/
def resume : State → State
  | .interrupted s => s
  | s => s

end State

/-- The state after a character, and what is shown of it. -/
def step (i : Interruption) (s : State) (c : Char) : State × List Char :=
  if c.utf8Size > 1 then
    if s.shows then (.outside, [c])
    else if s = .text ∧ endsText c then (.outside, [])
    else (s, [])
  else if c = '\x1b' then (.escape, [])
  else if c = '\x18' ∨ c = '\x1a' then (.outside, [])
  else if c < ' ' ∨ c = '\x7f' then
    if isLayout c ∧ ¬ s.carriesText then (s.interrupt i, [c])
    else if c = '\x07' ∧ s = .command then (.outside, [])
    else (s.resume, [])
  else if s.shows then (s, [c])
  else (s.next c, [])

def stripFrom (i : Interruption) : State → List Char → List Char
  | _, [] => []
  | s, c :: rest =>
    let (s, shown) := step i s c
    shown ++ stripFrom i s rest

def stripWith (i : Interruption) (s : String) : String :=
  String.ofList (stripFrom i .outside s.toList)

/-- The text as a message shows it. -/
def strip (s : String) : String := stripWith .ends s

/-- The text as it is written to a terminal. -/
def stripWritten (s : String) : String := stripWith .suspends s

end HopTrace.ControlSequence
