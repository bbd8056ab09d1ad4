import Joinery.Mapping.Basic

/-!
Mappings before they are checked: as they are written down, or put together column by column.
-/
namespace Joinery.Mapping

structure Definition where
  table : String
  columns : List Column
deriving DecidableEq, Repr

def definition (m : Mapping) : Definition := ⟨m.table, m.columns⟩

namespace Definition

def start (table : String) : Definition := ⟨table, []⟩

def add (d : Definition) (c : Column) : Definition := { d with columns := d.columns ++ [c] }

def column (d : Definition) (property name : String) (type : ColumnType) : Definition :=
  d.add ⟨property, name, type, false⟩

def identity (d : Definition) (property name : String) (type : ColumnType) : Definition :=
  d.add ⟨property, name, type, true⟩

def build (d : Definition) : Except Fault Mapping := ofColumns d.table d.columns

end Definition
end Joinery.Mapping
