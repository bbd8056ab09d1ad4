import Joinery.Error

/-!
How the records of one kind lie in a table: which property is held by which column,
under which type, and which columns make up the identity. Within a mapping no
property and no column occurs twice.
-/
namespace Joinery

structure Column where
  property : String
  name : String
  type : ColumnType
  identity : Bool
deriving DecidableEq, Repr

structure Mapping where
  table : String
  columns : List Column
  table_ne : table ≠ ""
  columns_ne : columns ≠ []
  properties_nodup : (columns.map Column.property).Nodup
  names_nodup : (columns.map Column.name).Nodup
deriving DecidableEq

namespace Mapping

/-- The first column that repeats the property or the name of an earlier one. -/
def firstRepeat (table : String) : List Column → List Column → Option Fault
  | _, [] => none
  | seen, c :: rest =>
    if c.property ∈ seen.map Column.property then
      some (.propertyMappedTwice c.property table)
    else if c.name ∈ seen.map Column.name then some (.columnMappedTwice c.name table)
    else firstRepeat table (seen ++ [c]) rest

theorem nodup_snoc {α : Type} {xs : List α} {x : α} (h : xs.Nodup) (new : x ∉ xs) :
    (xs ++ [x]).Nodup := by
  refine List.nodup_append.2 ⟨h, by simp, ?_⟩
  intro a ha b hb
  rw [List.mem_singleton] at hb
  subst hb
  exact fun same => new (same ▸ ha)

theorem nodup_of_firstRepeat {table : String} {seen rest : List Column}
    (h : firstRepeat table seen rest = none)
    (hp : (seen.map Column.property).Nodup) (hn : (seen.map Column.name).Nodup) :
    ((seen ++ rest).map Column.property).Nodup ∧
      ((seen ++ rest).map Column.name).Nodup := by
  induction rest generalizing seen with
  | nil => simpa using ⟨hp, hn⟩
  | cons c rest ih =>
    unfold firstRepeat at h
    split at h
    · exact absurd h (by simp)
    · split at h
      · exact absurd h (by simp)
      · rename_i property_new name_new
        have step := ih h
          (by simpa using nodup_snoc hp property_new)
          (by simpa using nodup_snoc hn name_new)
        simpa using step

def ofColumns (table : String) (columns : List Column) : Except Fault Mapping :=
  if table_ne : table = "" then .error .tableNameMissing
  else if columns_ne : columns = [] then .error (.noColumns table)
  else
    match h : firstRepeat table [] columns with
    | some fault => .error fault
    | none =>
      have nodup := nodup_of_firstRepeat h (by simp) (by simp)
      .ok {
        table, columns, table_ne, columns_ne
        properties_nodup := by simpa using nodup.1
        names_nodup := by simpa using nodup.2 }

def column? (m : Mapping) (property : String) : Option Column :=
  m.columns.find? (·.property == property)

def position? (m : Mapping) (property : String) : Option Nat :=
  m.columns.findIdx? (·.property == property)

def requireColumn (m : Mapping) (property : String) : Except Fault Column :=
  match m.column? property with
  | some c => .ok c
  | none => .error (.propertyNotMapped m.table property)

def identityColumns (m : Mapping) : List Column := m.columns.filter Column.identity

def hasIdentity (m : Mapping) : Bool := m.columns.any Column.identity

def display (m : Mapping) : String := mappingName m.table

end Mapping
end Joinery
