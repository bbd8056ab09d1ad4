import Joinery.Chain.Cursor
import Joinery.Mapping.Record
import Joinery.Sql.Statement

/-!
Where the columns of each store stand in a result, found once for all its rows, and
the reading of one store's record from a row. A column is looked up by its exact
name, then by its name without regard to the case of ASCII letters. A store is
present in a row if one of its identity columns is not null, or any column if it
has no identity.
-/
namespace Joinery

structure StoreLayout where
  aliasName : String
  ordinals : List Nat
  presence : List Nat
deriving DecidableEq

structure Layout where
  stores : List StoreLayout
deriving DecidableEq

def sameIgnoringCase (a b : String) : Bool :=
  a.toList.map Char.toLower == b.toList.map Char.toLower

def ordinal? (columns : List String) (name : String) : Option Nat :=
  (columns.findIdx? (· == name)).or (columns.findIdx? (sameIgnoringCase · name))

/-- The positions of a store's columns, whose names in the result begin with `lead`. -/
def locate (columns : List String) (aliasName lead : String) :
    List Column → Except Error (List Nat)
  | [] => .ok []
  | c :: rest =>
    match ordinal? columns (lead ++ c.name) with
    | none => .error (.missingColumn aliasName c.property (lead ++ c.name))
    | some i => (locate columns aliasName lead rest).map (i :: ·)

def presencePositions (m : Mapping) : List Nat :=
  (m.columns.zipIdx.filter fun p => p.1.identity || !m.hasIdentity).map (·.2)

def StoreLayout.of (columns : List String) (member : Sql.Member) (lead : String) :
    Except Error StoreLayout :=
  (locate columns member.aliasName lead member.mapping.columns).map fun os =>
    ⟨member.aliasName, os, presencePositions member.mapping⟩

def storeLayouts (columns : List String) :
    List Sql.Member → List String → Except Error (List StoreLayout)
  | m :: members, lead :: leads =>
    match StoreLayout.of columns m lead with
    | .error e => .error e
    | .ok layout => (storeLayouts columns members leads).map (layout :: ·)
  | _, _ => .ok []

def Layout.resolve (columns : List String) (members : List Sql.Member)
    (leads : List String) : Except Error Layout :=
  (storeLayouts columns members leads).map Layout.mk

def Row.anyPresent (r : Row) : List Nat → Except String Bool
  | [] => .ok false
  | i :: rest =>
    match r.isNull i with
    | .error cause => .error cause
    | .ok false => .ok true
    | .ok true => r.anyPresent rest

structure Reading where
  row : Row
  layout : Layout
  query : Sql.Query

namespace Reading

def executionError (r : Reading) (cause : String) : Error :=
  .execution r.query.sql r.query.params cause

/-- Reads the columns from `index` on into the record; null leaves a field as it is. -/
def fill {ρ : Type} (r : Reading) (aliasName : String) (records : RecordMapping ρ) :
    Nat → List Nat → ρ → Except Error ρ
  | _, [], record => .ok record
  | index, i :: rest, record =>
    match r.row.isNull i with
    | .error cause => .error (r.executionError cause)
    | .ok true => r.fill aliasName records (index + 1) rest record
    | .ok false =>
      match r.row.value i with
      | .error cause => .error (r.executionError cause)
      | .ok v =>
        match records.set index v record with
        | .error cause =>
          let property := (records.mapping.columns[index]?.map Column.property).getD ""
          .error (.materialization aliasName property cause)
        | .ok record => r.fill aliasName records (index + 1) rest record

def read {ρ : Type} (r : Reading) (index : Nat) (records : RecordMapping ρ) :
    Except Error (Option ρ) :=
  match r.layout.stores[index]? with
  | none => .ok none
  | some store =>
    match r.row.anyPresent (store.presence.filterMap fun p => store.ordinals[p]?) with
    | .error cause => .error (r.executionError cause)
    | .ok false => .ok none
    | .ok true => (r.fill store.aliasName records 0 store.ordinals records.blank).map some

end Reading
end Joinery
