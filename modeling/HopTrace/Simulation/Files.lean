import HopTrace.Config.Search

/-!
# Scripted files

A tree of files laid out in advance. A path is walked one component after another from the
root or, if it is relative, from the current directory. Empty components and single dots
stay where they are and double dots go up; all three need a directory to start from. Every
directory on the way to something that was laid out exists. The lengths of a component and
of a whole path are limited, in bytes.
-/
namespace HopTrace.Simulation

/-- The components of a path from the root. -/
abbrev Place := List String

inductive Laid where
  | directory
  | file (content : List UInt8)
  deriving DecidableEq, Repr

structure FileTree where
  laid : List (Place × Laid)
  current : Place

namespace FileTree

def components (path : String) : List String := path.splitOn "/"

/-- The most bytes a component may have. -/
def maxComponent : Nat := 255

/-- The most bytes a path may have. -/
def maxPath : Nat := 4095

/-- What is at a place. -/
def node? (t : FileTree) (place : Place) : Option Laid :=
  match t.laid.lookup place with
  | some node => some node
  | none =>
    if t.laid.any fun (other, _) => place.isPrefixOf other then some .directory else none

/-- Walks on from a place, which fails with the number of an error. -/
def walk (t : FileTree) : Place → List String → Except Errno Laid
  | place, [] => match t.node? place with
    | some node => .ok node
    | none => .error Errno.notFound
  | place, component :: rest =>
    match t.node? place with
    | none => .error Errno.notFound
    | some (.file _) => .error Errno.notDirectory
    | some .directory =>
      if component = "" ∨ component = "." then t.walk place rest
      else if component = ".." then t.walk place.dropLast rest
      else if component.utf8ByteSize > maxComponent then .error Errno.nameTooLong
      else t.walk (place ++ [component]) rest

def find (t : FileTree) (path : String) : Except Errno Laid :=
  if path.isEmpty then .error Errno.notFound
  else if path.utf8ByteSize > maxPath then .error Errno.nameTooLong
  else if path.startsWith "/" then t.walk [] (components path)
  else t.walk t.current (components path)

def state (t : FileTree) (path : String) : FileState :=
  match t.find path with
  | .error cause => .absent cause
  | .ok .directory => .unreadable Errno.isDirectory
  | .ok (.file content) => .ofBytes content

end FileTree

end HopTrace.Simulation
