import Joinery.Mapping.Basic
import Joinery.Value.Field

/-!
Record mappings bind every column of a mapping to a field of a record type. A
column that is bound twice keeps the last binding; names that are not mapped are
remembered and reported when the bindings are checked.
-/
namespace Joinery

abbrev Setter (ρ : Type) := Value → ρ → Except ValueError ρ

structure RecordMapping (ρ : Type) where
  mapping : Mapping
  blank : ρ
  /-- One for each column, in mapping order. -/
  setters : List (Option (Setter ρ))
  unknown : List String

namespace RecordMapping
variable {ρ : Type}

def ofMapping (mapping : Mapping) (blank : ρ) : RecordMapping ρ :=
  ⟨mapping, blank, mapping.columns.map fun _ => none, []⟩

def setter (field : FieldType) (assign : field.Carrier → ρ → ρ) : Setter ρ :=
  fun v record => (field.read v).map fun content => assign content record

def bind (r : RecordMapping ρ) (property : String) (field : FieldType)
    (assign : field.Carrier → ρ → ρ) : RecordMapping ρ :=
  match r.mapping.position? property with
  | some i => { r with setters := r.setters.set i (some (setter field assign)) }
  | none => { r with unknown := r.unknown ++ [property] }

def unbound (r : RecordMapping ρ) : List String :=
  ((r.mapping.columns.zip r.setters).filter fun p => p.2.isNone).map fun p => p.1.property

def validate (r : RecordMapping ρ) : Except Fault Unit :=
  match r.unknown with
  | property :: _ => .error (.unknownBinding r.mapping.table property)
  | [] =>
    if r.unbound.isEmpty then .ok ()
    else .error (.unboundProperties r.mapping.table r.unbound)

def set (r : RecordMapping ρ) (index : Nat) (v : Value) (record : ρ) :
    Except ValueError ρ :=
  match r.setters[index]? with
  | some (some s) => s v record
  | _ => .ok record

end RecordMapping

/-- A field of a record whose form is known only from its mapping. -/
structure Slot where
  property : String
  type : FieldType
  content : type.Carrier

abbrev Record := List Slot

namespace Record

def assign (property : String) (type : FieldType) (content : type.Carrier)
    (r : Record) : Record :=
  r.map fun slot => if slot.property = property then ⟨property, type, content⟩ else slot

def blank (columns : List Column) (fields : List (String × FieldType)) : Record :=
  columns.filterMap fun c =>
    (fields.reverse.find? (·.1 == c.property)).map fun f => ⟨c.property, f.2, f.2.initial⟩

def mappingOf (m : Mapping) (fields : List (String × FieldType)) : RecordMapping Record :=
  fields.foldl (fun r f => r.bind f.1 f.2 (assign f.1 f.2))
    (RecordMapping.ofMapping m (blank m.columns fields))

def untyped (m : Mapping) : List (String × FieldType) :=
  m.columns.map fun c => (c.property, .value)

end Record
end Joinery
