import Joinery.Error
import Joinery.Sql.Token

/-!
What compiling produces: the tokens, the text, the parameters in the order of their
placeholders, and for each store the text that its result columns begin with. A
fragment is what one part of the compiler adds, up to its first error.
-/
namespace Joinery.Sql

structure Query where
  tokens : List Token
  sql : String
  params : List Value
  prefixes : List String
deriving DecidableEq

def Query.empty : Query := ⟨[], "", [], []⟩

instance : Inhabited Query := ⟨Query.empty⟩

def Query.clear (_ : Query) : Query := Query.empty

structure Fragment where
  tokens : List Token
  params : List Value
  failure : Option Error

/-- Adds a fragment to what is already held. The text is written only when the
    fragment is complete. -/
def Query.append (q : Query) (d : Dialect) (prefixes : List String) (f : Fragment) : Query :=
  let tokens := q.tokens ++ f.tokens
  { tokens
    sql := if f.failure.isNone then q.sql ++ serialize d tokens else q.sql
    params := q.params ++ f.params
    prefixes := q.prefixes ++ prefixes }

/-- A part of a statement, given how many parameters are bound before it. -/
abbrev Emission := Nat → Fragment

namespace Emission

def tokens (ts : List Token) : Emission := fun _ => ⟨ts, [], none⟩

def nothing : Emission := tokens []

def fail (e : Error) : Emission := fun _ => ⟨[], [], some e⟩

def param (v : Value) : Emission := fun bound => ⟨[.param (bound + 1)], [v], none⟩

def seq (first second : Emission) : Emission := fun bound =>
  let f := first bound
  match f.failure with
  | some _ => f
  | none =>
    let g := second (bound + f.params.length)
    ⟨f.tokens ++ g.tokens, f.params ++ g.params, g.failure⟩

instance : Append Emission := ⟨seq⟩

def concat : List Emission → Emission
  | [] => nothing
  | e :: rest => e ++ concat rest

def separated (between : List Token) : List Emission → Emission
  | [] => nothing
  | e :: rest => e ++ concat (rest.map fun part => tokens between ++ part)

def require {α : Type} (check : Except Fault α) (k : α → Emission) : Emission :=
  match check with
  | .ok a => k a
  | .error fault => fail (.configuration fault)

def foundAt (place : Place) (e : Emission) : Emission := fun bound =>
  let f := e bound
  { f with failure := f.failure.map (Error.foundAt place) }

end Emission
end Joinery.Sql
