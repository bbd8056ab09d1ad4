/-!
The tree that a configuration document stands for, and the rules by which its lines
add to it. A table may be named on the way to another before it is defined itself,
but it is defined once; what a dotted key or an inline table has made is not opened
again by a header.
-/
namespace Joinery.Document

/-- How a table came about: named so far only on the way to another (`implied`), made by a
    dotted key (`dotted`), or written inline and so complete (`closed`). -/
structure Form where
  implied : Bool
  dotted : Bool
  closed : Bool

inductive Node where
  | text (s : String)
  /-- A whole number; it has no value when a character among its digits is none. -/
  | integer (value : Option Int)
  | real (fits : Bool)
  | boolean (b : Bool)
  | moment
  | array (ofTables : Bool) (items : List Node)
  | table (form : Form) (entries : List (String × Node))

structure Table where
  form : Form
  entries : List (String × Node)

namespace Table

def defined : Form := ⟨false, false, false⟩

def empty : Table := ⟨defined, []⟩

def implied (dotted : Bool) : Table := ⟨⟨true, dotted, false⟩, []⟩

def node (t : Table) : Node := .table t.form t.entries

def closed (t : Table) : Node := .table ⟨false, false, true⟩ t.entries

def get? (t : Table) (key : String) : Option Node := t.entries.lookup key

def erase (t : Table) (key : String) : Table :=
  { t with entries := t.entries.filter (·.1 != key) }

def put (t : Table) (key : String) (n : Node) : Table :=
  { t with entries := (t.erase key).entries ++ [(key, n)] }

/-- Changes the table at the end of a path, making the tables on the way. In an
    array of tables the path goes through the last one. -/
def descend {α : Type} (dotted : Bool) (change : Table → Option (Table × α)) :
    List String → Table → Option (Table × α)
  | [], t => change t
  | key :: path, t =>
    match t.get? key with
    | none =>
      (descend dotted change path (implied dotted)).map fun (child, a) =>
        (t.put key child.node, a)
    | some (.table form entries) =>
      if form.closed || (dotted && !form.implied) then none
      else
        (descend dotted change path ⟨form, entries⟩).map fun (child, a) =>
          (t.put key child.node, a)
    | some (.array true items) =>
      match items.getLast? with
      | some (.table form entries) =>
        (descend dotted change path ⟨form, entries⟩).map fun (child, a) =>
          (t.put key (.array true (items.dropLast ++ [child.node])), a)
      | _ => none
    | some _ => none

def assign (t : Table) (path : List String) (key : String) (n : Node) : Option Table :=
  let change (parent : Table) : Option (Table × Unit) :=
    if parent.form.dotted == path.isEmpty || (parent.get? key).isSome then none
    else some (parent.put key n, ())
  (descend true change path t).map (·.1)

def takeImplied (t : Table) (path : List String) (key : String) : Option (Table × Table) :=
  let change (parent : Table) : Option (Table × Table) :=
    match parent.get? key with
    | none => some (parent, empty)
    | some (.table form entries) =>
      if form.implied && !form.dotted then some (parent.erase key, ⟨defined, entries⟩)
      else none
    | some _ => none
  descend false change path t

def place (t : Table) (path : List String) (key : String) (child : Table) : Option Table :=
  let change (parent : Table) : Option (Table × Unit) :=
    some (parent.put key child.node, ())
  (descend false change path t).map (·.1)

def placeLast (t : Table) (path : List String) (key : String) (child : Table) : Option Table :=
  let change (parent : Table) : Option (Table × Unit) :=
    match parent.get? key with
    | none => some (parent.put key (.array true [child.node]), ())
    | some (.array true items) =>
      some (parent.put key (.array true (items ++ [child.node])), ())
    | some _ => none
  (descend false change path t).map (·.1)

end Table
end Joinery.Document
