import HopTrace.Toml.Cursor

/-!
# Blanks, comments and strings

The lexical level of a document. Strings come in four kinds: with or without escapes, on
one line or on several. A string on several lines drops the line break right after its
opening quotes, ends its lines with a bare line feed, and may hold up to two quotes in a
row, also just before the closing ones.

Once a string or an escape has begun nothing else can be meant, so that whatever is wrong
with it is final. Up to two quotes inside a string on several lines are read if no third one
follows. In a string with escapes whatever comes after them is then judged where it stands;
in one without, quotes that no text follows are not read, and the string is wrong there.
-/
namespace HopTrace.Toml

def isBlank (c : Char) : Bool := c = ' ' || c = '\t'

/-- Characters that may stand in a comment or a string: no control character but the tab. -/
def isText (c : Char) : Bool := c = '\t' || (c ≥ ' ' && c ≠ '\x7f')

/-- Characters that stand for themselves in a string with escapes. -/
def isPlain (c : Char) : Bool := isText c && c ≠ '"' && c ≠ '\\'

/-- Characters that may stand in a string without escapes. -/
def isLiteral (c : Char) : Bool := isText c && c ≠ '\''

def hexDigit? (c : Char) : Option Nat :=
  if c.isDigit then some (c.toNat - '0'.toNat)
  else if 'a' ≤ c ∧ c ≤ 'f' then some (c.toNat - 'a'.toNat + 10)
  else if 'A' ≤ c ∧ c ≤ 'F' then some (c.toNat - 'A'.toNat + 10)
  else none

def isHex (c : Char) : Bool := (hexDigit? c).isSome

/-- The number that digits of a base spell. -/
def valueIn (base : Nat) (ds : List Char) : Nat :=
  ds.foldl (fun n c => n * base + (hexDigit? c).getD 0) 0

/-- The character with the given hexadecimal code, if there is one. -/
def ofHexCode (digits : List Char) : Option Char :=
  let code := valueIn 16 digits
  if code.isValidChar then some (Char.ofNat code) else none

def simpleEscape? : Char → Option Char
  | 'b' => some '\x08'
  | 't' => some '\t'
  | 'n' => some '\n'
  | 'f' => some '\x0c'
  | 'r' => some '\r'
  | '"' => some '"'
  | '\\' => some '\\'
  | _ => none

namespace Reader

def blanks : Reader Unit := do let _ ← takeWhile isBlank

/-- A line feed, with a carriage return before it or not. Any other character is wrong after
it, for it has been read. -/
def newline : Reader Unit := do
  match ← satisfy (fun _ => true) with
  | '\n' => return ()
  | '\r' => expect "\n"
  | _ => refuse

def atEnd : Reader Unit := do unless (← rest).isEmpty do refuse

/-- A comment up to the end of its line. -/
def comment : Reader Unit := do
  expect "#"
  let _ ← takeWhile isText

/-- The end of a line or of the document. -/
def lineEnd : Reader Unit := either newline atEnd

/-- Whatever may follow a value or a header on its line. -/
def trailing : Reader Unit := do
  blanks
  let _ ← optional comment
  lineEnd

def betweenUpTo : (lines : Nat) → Reader Unit
  | 0 => return ()
  | lines + 1 => do
    blanks
    match ← peek with
    | some '#' =>
      comment
      newline
      betweenUpTo lines
    | some '\n' | some '\r' =>
      newline
      betweenUpTo lines
    | _ => return ()

/-- Blanks, line breaks and comments between the items of an array. -/
def between : Reader Unit := do betweenUpTo ((← remaining) + 1)

/-- The code of a character in exactly `count` hexadecimal digits. -/
def hexCode (count : Nat) : Reader Char := judged (takeExactly count isHex) ofHexCode

/-- What follows a backslash. A letter without a meaning is wrong after its first byte,
which for a character of several bytes is a place inside it. -/
def escapeCode : Reader Char := do
  let start ← offset
  match ← satisfy (fun _ => true) with
  | 'u' => commit (hexCode 4)
  | 'U' => commit (hexCode 8)
  | c =>
    match simpleEscape? c with
    | some meant => return meant
    | none => stop (if c.utf8Size = 1 then start + 1 else start)

def escaped : Reader Char := do
  expect "\\"
  escapeCode

/-- A string with escapes on one line. -/
def basicString : Reader String := do
  expect "\""
  let pieces ← many (either (takeSome isPlain) (do return [← escaped]))
  commit (expect "\"")
  return String.ofList pieces.flatten

/-- A string without escapes on one line. -/
def literalString : Reader String := do
  expect "'"
  let text ← takeWhile isLiteral
  commit (expect "'")
  return String.ofList text

/-- A backslash at the end of a line, with the blanks and line breaks after it. -/
def joinedLines : Reader Unit := do
  expect "\\"
  blanks
  newline
  let _ ← many (either newline (do let _ ← takeSome isBlank))

/-- A piece without quotes of a string with escapes on several lines. -/
def basicPiece : Reader (List Char) :=
  either (takeSome isPlain) <|
  either (do joinedLines; return []) <|
  either (do return [← escaped]) (do newline; return ['\n'])

/-- A piece without quotes of a string without escapes on several lines. -/
def literalPiece : Reader (List Char) :=
  either (takeSome isLiteral) (do newline; return ['\n'])

/-- Two quotes or else one, in sight of what the follower reads. -/
def quotes (quote : Char) (follower : Reader Unit) : Reader (List Char) :=
  either
    (do
      expect (String.ofList [quote, quote])
      ahead follower
      return [quote, quote])
    (do
      expect (String.ofList [quote])
      ahead follower
      return [quote])

/-- Any character but a quote. -/
def unquoted (quote : Char) : Reader Unit := do let _ ← satisfy (· ≠ quote)

/-- A string on several lines between triple quotes, given its pieces without quotes and how
many of them are read after quotes. -/
def lines (quote : Char) (piece : Reader (List Char)) (pieces : Reader (List (List Char))) :
    Reader String := do
  let delimiter := String.ofList [quote, quote, quote]
  expect delimiter
  let _ ← optional newline
  let first ← many piece
  let more ← many do
    let held ← quotes quote (unquoted quote)
    return held ++ (← pieces).flatten
  let last ← optional (quotes quote (expect delimiter))
  commit (expect delimiter)
  return String.ofList (first.flatten ++ more.flatten ++ last.getD [])

def basicLines : Reader String := lines '"' basicPiece (many basicPiece)

def literalLines : Reader String := lines '\'' literalPiece do
  let first ← literalPiece
  return first :: (← many literalPiece)

/-- A string of any kind. -/
def string : Reader String :=
  either basicLines <| either basicString <| either literalLines literalString

end Reader

end HopTrace.Toml
