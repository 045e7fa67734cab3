/-!
# Readers

A cursor is what is left of a document and how many characters have been read, out of how
many. A reader takes a cursor and either yields a value and the cursor after it or refuses.
The place of a refusal is where the reader stood when it gave up, which need not be where
it began. After an ordinary refusal something else may be tried from where the reader
began; a final one ends the reading of the whole document.

Lines and columns count from one; a position at the very end of the document is reported
one column after its last character, even if that character ends a line.
-/
namespace HopTrace.Toml

structure Cursor where
  rest : List Char
  offset : Nat
  /-- The length of the whole document. -/
  size : Nat
  deriving DecidableEq, Repr

structure Refusal where
  offset : Nat
  final : Bool
  deriving DecidableEq, Repr

abbrev Reader (α : Type) := StateT Cursor (Except Refusal) α

namespace Cursor

def start (text : List Char) : Cursor := ⟨text, 0, text.length⟩

/-- The cursor after `n` more characters. -/
def skip (c : Cursor) (n : Nat) : Cursor := ⟨c.rest.drop n, c.offset + n, c.size⟩

end Cursor

namespace Reader

variable {α β : Type}

def refuse : Reader α := fun c => .error ⟨c.offset, false⟩

/-- Ends the reading, for a reason that stands at the given position. -/
def stop (offset : Nat) : Reader α := fun _ => .error ⟨offset, true⟩

def peek : Reader (Option Char) := fun c => .ok (c.rest.head?, c)

/-- What is left of the document. -/
def rest : Reader (List Char) := fun c => .ok (c.rest, c)

def offset : Reader Nat := fun c => .ok (c.offset, c)

/-- How many characters are left. -/
def remaining : Reader Nat := fun c => .ok (c.size - c.offset, c)

/-- The next character, if it satisfies `p`. -/
def satisfy (p : Char → Bool) : Reader Char := fun c =>
  match c.rest with
  | d :: _ => if p d then .ok (d, c.skip 1) else .error ⟨c.offset, false⟩
  | [] => .error ⟨c.offset, false⟩

/-- The characters at the front that satisfy `p`. -/
def takeWhile (p : Char → Bool) : Reader (List Char) := fun c =>
  let taken := c.rest.takeWhile p
  .ok (taken, c.skip taken.length)

/-- The characters at the front that satisfy `p`, of which there must be one. -/
def takeSome (p : Char → Bool) : Reader (List Char) := do
  let first ← satisfy p
  return first :: (← takeWhile p)

/-- Exactly `count` characters that satisfy `p`. -/
def takeExactly (count : Nat) (p : Char → Bool) : Reader (List Char) := fun c =>
  let taken := c.rest.take count
  if taken.length = count ∧ taken.all p then .ok (taken, c.skip count)
  else .error ⟨c.offset, false⟩

def expect (text : String) : Reader Unit := fun c =>
  if text.toList.isPrefixOf c.rest then .ok ((), c.skip text.length)
  else .error ⟨c.offset, false⟩

/-- What the reader yields, or nothing if it refuses. -/
def optional (r : Reader α) : Reader (Option α) := fun c =>
  match r c with
  | .ok (a, after) => .ok (some a, after)
  | .error e => if e.final then .error e else .ok (none, c)

/-- Tries the second reader where the first one refuses. -/
def either (r s : Reader α) : Reader α := fun c =>
  match r c with
  | .ok answer => .ok answer
  | .error e => if e.final then .error e else s c

/-- Makes every refusal final. -/
def commit (r : Reader α) : Reader α := fun c =>
  match r c with
  | .ok answer => .ok answer
  | .error e => .error { e with final := true }

/-- Whether the reader would accept what comes next. It is not held to have moved. -/
def ahead (r : Reader α) : Reader Unit := fun c =>
  match r c with
  | .ok _ => .ok ((), c)
  | .error e => .error { e with offset := c.offset }

/-- Reads and then judges. What is turned down is refused where it begins. -/
def judged (r : Reader α) (judge : α → Option β) : Reader β := fun c =>
  match r c with
  | .ok (a, after) =>
    match judge a with
    | some b => .ok (b, after)
    | none => .error ⟨c.offset, false⟩
  | .error e => .error e

def upTo (r : Reader α) : (count : Nat) → Reader (List α)
  | 0 => return []
  | count + 1 => do
    match ← optional r with
    | some a => return a :: (← upTo r count)
    | none => return []

/-- As many pieces as there are. A piece takes at least one character, so there are no more
pieces than characters. -/
def many (r : Reader α) : Reader (List α) := do upTo r (← remaining)

/-- Any number of items with a separator between them. A separator that no item follows is
left unread. -/
def separated (item : Reader α) (separator : String) : Reader (List α) := do
  match ← optional item with
  | none => return []
  | some first => return first :: (← many (do expect separator; item))

end Reader

/-- How many columns a piece of a line takes in front of a character. Columns count
characters, but bytes where that character is itself more than one byte. -/
def columnsBefore (line : List Char) (next : Option Char) : Nat :=
  match next with
  | some c => if c.utf8Size > 1 then line.foldl (fun n d => n + d.utf8Size) 0 else line.length
  | none => line.length

/-- Line and column of an offset, both counted from one. -/
def lineColumn (text : List Char) (offset : Nat) : Nat × Nat :=
  if text.isEmpty then (1, offset + 1)
  else
    let inside := min offset (text.length - 1)
    let before := text.take inside
    let start := before.reverse.takeWhile (· ≠ '\n')
    (before.count '\n' + 1, columnsBefore start text[offset]? + (offset - inside) + 1)

end HopTrace.Toml
