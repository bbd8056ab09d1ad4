/-!
Files in folders, and paths to them. A path is walked name by name from the root or
from the working folder; every name, also an empty one or a dot, needs a folder to
stand in, so a file followed by a slash is not there.
-/
namespace Joinery

inductive FileEntry where
  | file (content : List UInt8)
  | folder (entries : List (String × FileEntry))

inductive Source where
  | absent
  | unreadable
  | bytes (content : List UInt8)

structure FileTree where
  root : FileEntry
  working : List String

namespace FileTree

def names : List Char → List (List Char)
  | [] => [[]]
  | '/' :: rest => [] :: names rest
  | c :: rest =>
    match names rest with
    | [] => [[c]]
    | name :: more => (c :: name) :: more

/-- One name further. The entries on the way up to the root are kept, innermost first;
    nothing lies above the root. -/
def step (trail : List FileEntry) (name : String) : Option (List FileEntry) :=
  match trail with
  | .folder entries :: above =>
    if name = "" ∨ name = "." then some trail
    else if name = ".." then some (if above.isEmpty then trail else above)
    else (entries.lookup name).map (· :: trail)
  | _ => none

def walk : List FileEntry → List String → Option (List FileEntry)
  | trail, [] => some trail
  | trail, name :: more => (step trail name).bind fun trail => walk trail more

def origin (t : FileTree) : List Char → Option (List FileEntry)
  | '/' :: _ => some [t.root]
  | _ => walk [t.root] t.working

def maxPathBytes : Nat := 4096

def read (t : FileTree) (path : String) : Source :=
  if path = "" ∨ maxPathBytes ≤ path.utf8ByteSize then .absent
  else
    let steps := (names path.toList).map String.ofList
    match (t.origin path.toList).bind fun trail => walk trail steps with
    | some (.file content :: _) => .bytes content
    | some (.folder _ :: _) => .unreadable
    | _ => .absent

end FileTree
end Joinery
