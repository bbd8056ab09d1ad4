import Joinery.Error

/-!
Results as they arrive: column names, then rows one at a time, any of which may
fail to arrive. A cell is asked first whether it is null and then for its value,
and either question may fail.
-/
namespace Joinery

structure Cell where
  isNull : Except String Bool
  value : Except String Value

def Cell.ofValue (v : Value) : Cell := ⟨.ok v.isNull, .ok v⟩

structure Row where
  cells : List Cell

def noSuchCell : String := "the row has no such column"

def Row.isNull (r : Row) (i : Nat) : Except String Bool :=
  match r.cells[i]? with
  | some c => c.isNull
  | none => .error noSuchCell

def Row.value (r : Row) (i : Nat) : Except String Value :=
  match r.cells[i]? with
  | some c => c.value
  | none => .error noSuchCell

inductive Event where
  | row (r : Row)
  | failure (cause : String)

structure Cursor where
  columns : List String
  events : List Event

end Joinery
