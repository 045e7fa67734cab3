import HopTrace.Toml.Number

/-!
# Reading a document

A document is a sequence of lines: blank ones and comments, keys with their values, and
headers that open the table the following keys belong to. Values may be nested to a depth
below eighty, and a dotted key has fewer than eighty parts, which is also what bounds the
reading.

The first character of a line, and of a value between brackets or braces, decides what it
is; whatever is wrong with it after that is final. The keys of a table between braces are
compared only when all of them have been read.

A table is put into its parent when the next header begins. Opening a table that was only
named before takes it out of its place, so that it comes to stand behind the tables that
were completed in the meantime.
-/
namespace HopTrace.Toml

/-- Values nest, and keys have parts, fewer than this. -/
def nestingLimit : Nat := 80

def isBareKey (c : Char) : Bool := c.isAlphanum || c = '_' || c = '-'

/-- A dotted key: the parts before the last, and the last. -/
structure KeyPath where
  path : List Key
  last : Key

/-- Key and parts that follow it, if they are not too many. -/
def KeyPath.ofParts (first : Key) (more : List Key) : Option KeyPath :=
  if more.length + 1 ≥ nestingLimit then none
  else match more.getLast? with
    | none => some ⟨[], first⟩
    | some last => some ⟨first :: more.dropLast, last⟩

/-- The table between braces that holds the given entries. -/
def Table.ofInline (offset : Nat) (entries : List (KeyPath × Node)) : Option Table :=
  entries.foldlM (fun t (k, value) => t.defineDotted k.path k.last value) ⟨some offset, .inline, []⟩

namespace Reader

/-- One part of a key with the blanks around it. -/
def keyPart : Reader Key := do
  blanks
  let start ← offset
  let name ← match ← peek with
    | some '"' => basicString
    | some '\'' => literalString
    | _ => String.ofList <$> takeSome isBareKey
  blanks
  return ⟨name, start⟩

/-- A dotted key. A dot that no part follows is left unread. -/
def key : Reader KeyPath :=
  judged
    (do
      let first ← keyPart
      return (first, ← many (do expect "."; keyPart)))
    fun (first, more) => KeyPath.ofParts first more

/-- A value of an array, with whatever stands between it and its neighbours. -/
def arrayItem (value : Reader Node) : Reader Node := do
  between
  let item ← value
  between
  return item

/-- The items of an array, of which the last may have a comma after it. -/
def arrayItems (value : Reader Node) : Reader (List Node) := do
  if (← peek) = some ']' then return []
  let items ← separated (arrayItem value) ","
  unless items.isEmpty do
    let _ ← optional (expect ",")
  between
  return items

def array (value : Reader Node) : Reader Node := do
  let start ← offset
  expect "["
  let items ← commit (arrayItems value)
  commit (expect "]")
  return .array start items

/-- One entry of a table between braces. -/
def inlineEntry (value : Reader Node) : Reader (KeyPath × Node) := do
  let k ← key
  commit do
    expect "="
    blanks
    let v ← value
    blanks
    return (k, v)

/-- A table between braces. -/
def inlineTable (value : Reader Node) : Reader Node := do
  let start ← offset
  expect "\x7b"
  let t ← commit <| judged
    (do
      let entries ← separated (inlineEntry value) ","
      blanks
      return entries)
    (Table.ofInline start)
  commit (expect "\x7d")
  return t.node

/-- A value nested in at most `depth` others. -/
def value (depth : Nat) : Reader Node := do
  let start ← offset
  match ← peek with
  | some '"' | some '\'' => return .scalar start (.string (← string))
  | some '[' =>
    match depth with
    | 0 => stop start
    | depth + 1 => array (value depth)
  | some '\x7b' =>
    match depth with
    | 0 => stop start
    | depth + 1 => inlineTable (value depth)
  | some 't' =>
    commit (expect "true")
    return .scalar start (.boolean true)
  | some 'f' =>
    commit (expect "false")
    return .scalar start (.boolean false)
  | some 'i' | some 'n' => return .scalar start (← special)
  | some c => if c.isDigit ∨ c = '+' ∨ c = '-' then return .scalar start (← number) else refuse
  | none => refuse

end Reader

/-- The tables read so far and the one that is being filled. -/
structure Draft where
  root : Table
  /-- Where the current table belongs, unless it is the root. -/
  place : Option (List Key × Key)
  isArray : Bool
  current : Table

namespace Draft

def start : Draft := ⟨⟨none, .header, []⟩, none, false, ⟨none, .header, []⟩⟩

/-- Puts the current table into its place. -/
def complete (d : Draft) : Option Table :=
  match d.place with
  | none => some d.current
  | some (path, key) =>
    d.root.descend false
      (fun parent => if d.isArray then parent.push key d.current
        else parent.define key d.current.node) path

/-- Opens the table of a header. -/
def openTable (d : Draft) (offset : Nat) (path : List Key) (key : Key) : Option Draft := do
  let root ← d.complete
  let held ← (← root.follow path).heldFor key
  let root ← root.descend false (fun parent => some (parent.remove key)) path
  return ⟨root, some (path, key), false, ⟨some offset, .header, held⟩⟩

/-- Opens one more table of an array. -/
def openItem (d : Draft) (offset : Nat) (path : List Key) (key : Key) : Option Draft := do
  let root ← d.complete
  let root ← root.descend false (fun parent => parent.openArray key) path
  return ⟨root, some (path, key), true, ⟨some offset, .header, []⟩⟩

end Draft

namespace Reader

/-- A header with its brackets, up to the end of its line. -/
def header (opening closing : String) : Reader KeyPath := do
  expect opening
  let k ← commit key
  commit (expect closing)
  commit trailing
  return k

/-- A line that opens a table. A header takes at least two characters. -/
def tableLine (d : Draft) : Reader Draft := do
  let start ← offset
  match (← rest).take 2 with
  | ['[', '['] => judged (header "[[" "]]") fun k => d.openItem start k.path k.last
  | [_, _] => judged (header "[" "]") fun k => d.openTable start k.path k.last
  | _ => refuse

/-- A line that defines a key. -/
def definition (d : Draft) : Reader Draft :=
  judged
    (do
      let k ← key
      commit do
        expect "="
        blanks
        let v ← value (nestingLimit - 1)
        trailing
        return (k, v))
    fun (k, v) => do return { d with current := ← d.current.defineDotted k.path k.last v }

/-- One line with the blanks after it. -/
def line (d : Draft) : Reader Draft := do
  let d ← match ← peek with
    | none => refuse
    | some '#' =>
      commit (do comment; lineEnd)
      pure d
    | some '[' => commit (tableLine d)
    | some '\n' | some '\r' =>
      newline
      pure d
    | some _ => commit (definition d)
  blanks
  return d

/-- The lines of a document, at most `count` of them. -/
def linesUpTo : (count : Nat) → Draft → Reader Draft
  | 0, d => return d
  | count + 1, d => do
    match ← optional (line d) with
    | some d => linesUpTo count d
    | none => return d

/-- A whole document, with or without a byte order mark. -/
def document : Reader Table := do
  let _ ← optional (expect "\ufeff")
  blanks
  let d ← linesUpTo (← remaining) Draft.start
  atEnd
  let finish ← offset
  match d.complete with
  | some root => return root
  | none => stop finish

end Reader

/-- The root table of a document, or where it is malformed. -/
def parse (text : String) : Except Nat Table :=
  match Reader.document (Cursor.start text.toList) with
  | .ok (root, _) => .ok root
  | .error e => .error e.offset

end HopTrace.Toml
