import Joinery.Config.Document.Scalar

/-!
Reading a whole document: values, lines of keys and headers, and the tree that the
lines build up. A document that breaks any rule has no tree.
-/
namespace Joinery.Document

/-- Arrays and inline tables may lie this deep in one another. -/
def maxDepth : Nat := 80

def isCommentCharacter (c : Char) : Bool := !isControl c

def skipComment : List Char → Option (List Char)
  | '#' :: rest =>
    match rest.dropWhile isCommentCharacter with
    | [] => some []
    | '\n' :: rest => some ('\n' :: rest)
    | '\r' :: '\n' :: rest => some ('\n' :: rest)
    | _ => none
  | s => some s

def skipTriviaWith : Nat → List Char → Option (List Char)
  | 0, _ => none
  | fuel + 1, s =>
    match skipBlanks s with
    | '\n' :: rest => skipTriviaWith fuel rest
    | '\r' :: '\n' :: rest => skipTriviaWith fuel rest
    | '#' :: rest =>
      match skipComment ('#' :: rest) with
      | some rest => skipTriviaWith fuel rest
      | none => none
    | rest => some rest

def skipTrivia (s : List Char) : Option (List Char) := skipTriviaWith (s.length + 1) s

def textNode (s : Step (List Char)) : Step Node :=
  s.map fun (content, rest) => (.text (String.ofList content), rest)

mutual

def value : Nat → Nat → List Char → Step Node
  | 0, _, _ => none
  | fuel + 1, depth, s =>
    match s with
    | '"' :: '"' :: '"' :: rest => textNode (multilineBasic .text (dropFirstBreak rest))
    | '"' :: rest => textNode (basic rest)
    | '\'' :: '\'' :: '\'' :: rest => textNode (multilineLiteral (dropFirstBreak rest))
    | '\'' :: rest => textNode (literal rest)
    | '[' :: rest =>
      if maxDepth ≤ depth then none
      else (items fuel (depth + 1) rest).map fun (ns, rest) => (.array false ns, rest)
    | '\x7b' :: rest =>
      if maxDepth ≤ depth then none
      else pairs fuel (depth + 1) Table.empty rest
    | _ => scalar s

def items : Nat → Nat → List Char → Step (List Node)
  | 0, _, _ => none
  | fuel + 1, depth, s =>
    match skipTrivia s with
    | none => none
    | some (']' :: rest) => some ([], rest)
    | some s =>
      match value fuel depth s with
      | none => none
      | some (n, rest) =>
        match skipTrivia rest with
        | some (',' :: rest) =>
          (items fuel depth rest).map fun (ns, rest) => (n :: ns, rest)
        | some (']' :: rest) => some ([n], rest)
        | _ => none

def pairs : Nat → Nat → Table → List Char → Step Node
  | 0, _, _, _ => none
  | fuel + 1, depth, t, s =>
    match skipTrivia s with
    | none => none
    | some ('\x7d' :: rest) => some (t.closed, rest)
    | some s =>
      match inlinePair fuel depth t s with
      | none => none
      | some (t, rest) =>
        match skipTrivia rest with
        | some (',' :: rest) => pairs fuel depth t rest
        | some ('\x7d' :: rest) => some (t.closed, rest)
        | _ => none

def inlinePair : Nat → Nat → Table → List Char → Step Table
  | 0, _, _, _ => none
  | fuel + 1, depth, t, s =>
    match keyPath s with
    | none => none
    | some ((path, key), rest) =>
      match skipTrivia rest with
      | some ('=' :: rest) =>
        match (skipTrivia rest).bind (value fuel depth) with
        | some (n, rest) => (t.assign path key n).map fun t => (t, rest)
        | none => none
      | _ => none

end

def endLine (s : List Char) : Option (List Char) :=
  match skipComment (skipBlanks s) with
  | some [] => some []
  | some ('\n' :: rest) => some rest
  | some ('\r' :: '\n' :: rest) => some rest
  | _ => none

structure Header where
  path : List String
  key : String
  ofTables : Bool

/-- The tree so far and the table that lines are being added to, which is put in its
    place when it is complete. -/
structure Builder where
  root : Table
  header : Option Header
  current : Table

namespace Builder

def start : Builder := ⟨Table.empty, none, Table.empty⟩

def finish (b : Builder) : Option Table :=
  match b.header with
  | none => some b.current
  | some h =>
    if h.ofTables then b.root.placeLast h.path h.key b.current
    else b.root.place h.path h.key b.current

def openTable (b : Builder) (h : Header) : Option Builder :=
  match b.finish with
  | none => none
  | some root =>
    if h.ofTables then some ⟨root, some h, Table.empty⟩
    else
      (root.takeImplied h.path h.key).map fun (root, current) => ⟨root, some h, current⟩

def assign (b : Builder) (path : List String) (key : String) (n : Node) : Option Builder :=
  (b.current.assign path key n).map fun current => { b with current }

end Builder

def header (ofTables : Bool) (s : List Char) : Step Header :=
  match keyPath (skipBlanks s) with
  | some ((path, key), rest) =>
    match ofTables, rest with
    | false, ']' :: rest => some (⟨path, key, false⟩, rest)
    | true, ']' :: ']' :: rest => some (⟨path, key, true⟩, rest)
    | _, _ => none
  | none => none

def pair (b : Builder) (s : List Char) : Step Builder :=
  match keyPath s with
  | some ((path, key), '=' :: rest) =>
    match value (3 * rest.length + 3) 0 (skipBlanks rest) with
    | some (n, rest) => (b.assign path key n).map fun b => (b, rest)
    | none => none
  | _ => none

def headerLine (b : Builder) (ofTables : Bool) (s : List Char) : Step Builder :=
  match header ofTables s with
  | some (h, rest) => (b.openTable h).map fun b => (b, rest)
  | none => none

def lines : Nat → Builder → List Char → Option Table
  | 0, _, _ => none
  | fuel + 1, b, s =>
    match skipBlanks s with
    | [] => b.finish
    | '\n' :: rest => lines fuel b rest
    | '\r' :: '\n' :: rest => lines fuel b rest
    | '#' :: rest =>
      match endLine ('#' :: rest) with
      | some rest => lines fuel b rest
      | none => none
    | s =>
      let step :=
        match s with
        | '[' :: '[' :: rest => headerLine b true rest
        | '[' :: rest => headerLine b false rest
        | _ => pair b s
      match step with
      | none => none
      | some (b, rest) =>
        match endLine rest with
        | some rest => lines fuel b rest
        | none => none

def returnsPaired : List Char → Bool
  | [] => true
  | '\r' :: '\n' :: rest => returnsPaired rest
  | '\r' :: _ => false
  | _ :: rest => returnsPaired rest

def read (text : String) : Option Table :=
  let s := match text.toList with
    | '\uFEFF' :: rest => rest
    | s => s
  if returnsPaired s then lines (s.length + 1) Builder.start s else none

end Joinery.Document
