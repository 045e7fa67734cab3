/-!
# Documents

A document is a tree of tables. Each key and each value remembers where it was written; a
table that was never written out, because it was only named on the way to another, has no
place of its own. Entries keep the order in which their tables were completed.

Which further definitions a table admits depends on how it came about. `Table.descend`
walks a path and `Table.define` adds to a table; both refuse to define anything twice.
-/
namespace HopTrace.Toml

structure Key where
  name : String
  offset : Nat
  deriving DecidableEq, Repr

inductive Scalar where
  | string (s : String)
  | integer (n : Int)
  /-- A number with a fraction or an exponent, already in the form it is shown in. -/
  | float (text : String)
  | boolean (b : Bool)
  | datetime
  deriving DecidableEq, Repr

inductive TableKind where
  /-- Opened by a header of its own. -/
  | header
  /-- Named by the headers of other tables only. -/
  | implicit
  /-- Made by a dotted key. -/
  | dotted
  /-- Written between braces, and closed for good. -/
  | inline
  deriving DecidableEq, Repr

inductive Node where
  | scalar (offset : Nat) (value : Scalar)
  | array (offset : Nat) (items : List Node)
  | table (offset : Option Nat) (kind : TableKind) (entries : List (Key × Node))
  /-- An array of tables that each have a header. -/
  | tables (offset : Option Nat) (items : List Node)
  deriving Repr

abbrev Entries := List (Key × Node)

namespace Node

/-- Where the value was written. -/
def offset? : Node → Option Nat
  | .scalar offset _ => some offset
  | .array offset _ => some offset
  | .table offset _ _ => offset
  | .tables offset _ => offset

end Node

namespace Entries

def find? (entries : Entries) (name : String) : Option Node :=
  (List.find? (fun e => e.1.name = name) entries).map (·.2)

/-- The value of a key that is present is replaced in its place. -/
def replace (entries : Entries) (name : String) (value : Node) : Entries :=
  entries.map fun e => if e.1.name = name then (e.1, value) else e

def remove (entries : Entries) (name : String) : Entries :=
  entries.filter (·.1.name ≠ name)

def append (entries : Entries) (key : Key) (value : Node) : Entries := entries ++ [(key, value)]

end Entries

/-- A table that is being built: how it came about and what is in it. -/
structure Table where
  offset : Option Nat
  kind : TableKind
  entries : Entries

namespace Table

def node (t : Table) : Node := .table t.offset t.kind t.entries

def made (kind : TableKind) : Table := ⟨none, kind, []⟩

/-- Dotted keys may only extend tables that have no header. -/
def admitsDotted : TableKind → Bool
  | .implicit | .dotted => true
  | .header | .inline => false

/-- Applies `act` to the table a path leads to, making the tables on the way that are not
there yet. The last table of an array of tables stands for the array. -/
def descend (dotted : Bool) (act : Table → Option Table) : List Key → Table → Option Table
  | [], t => act t
  | key :: path, t =>
    match t.entries.find? key.name with
    | none => do
      let child ← descend dotted act path (made (if dotted then .dotted else .implicit))
      return { t with entries := t.entries.append key child.node }
    | some (.table offset kind entries) =>
      if kind = .inline ∨ (dotted ∧ ¬ admitsDotted kind) then none
      else do
        let child ← descend dotted act path ⟨offset, kind, entries⟩
        return { t with entries := t.entries.replace key.name child.node }
    | some (.tables offset items) =>
      match items.getLast? with
      | some (.table o kind entries) => do
        let child ← descend dotted act path ⟨o, kind, entries⟩
        let items := items.dropLast ++ [child.node]
        return { t with entries := t.entries.replace key.name (.tables offset items) }
      | _ => none
    | some _ => none

/-- Adds a value under a new key. -/
def define (key : Key) (value : Node) (t : Table) : Option Table :=
  match t.entries.find? key.name with
  | some _ => none
  | none => some { t with entries := t.entries.append key value }

/-- Adds a value under a dotted key. A table that a dotted key leads to must be the work of
dotted keys alone. -/
def defineDotted (path : List Key) (key : Key) (value : Node) : Table → Option Table :=
  descend true (fun t => if !path.isEmpty && t.kind ≠ .dotted then none else t.define key value) path

/-- The table a path leads to, which is empty if it is not there yet. -/
def follow : List Key → Table → Option Table
  | [], t => some t
  | key :: path, t =>
    match t.entries.find? key.name with
    | none => some (made .implicit)
    | some (.table offset kind entries) =>
      if kind = .inline then none else follow path ⟨offset, kind, entries⟩
    | some (.tables _ items) =>
      match items.getLast? with
      | some (.table offset kind entries) => follow path ⟨offset, kind, entries⟩
      | _ => none
    | some _ => none

/-- What a table holds that a header is about to open: it must be new, or have been named
only. -/
def heldFor (key : Key) (parent : Table) : Option Entries :=
  match parent.entries.find? key.name with
  | none => some []
  | some (.table _ .implicit entries) => some entries
  | some _ => none

def remove (key : Key) (t : Table) : Table := { t with entries := t.entries.remove key.name }

/-- Adds a table to an array of tables that is there already. -/
def push (t : Table) (key : Key) (item : Table) : Option Table :=
  match t.entries.find? key.name with
  | some (.tables offset items) =>
    let offset := if items.isEmpty then item.offset else offset
    some { t with entries := t.entries.replace key.name (.tables offset (items ++ [item.node])) }
  | _ => none

/-- Makes an array of tables, unless it is there already. -/
def openArray (key : Key) (t : Table) : Option Table :=
  match t.entries.find? key.name with
  | none => t.define key (.tables none [])
  | some (.tables ..) => some t
  | some _ => none

end Table

end HopTrace.Toml
