import Joinery.Mapping.Definition
import Joinery.Proofs.Mapping.Binding
import Mathlib.Data.List.Nodup

/-!
Which columns make a mapping, what is told of those that do not, and where the columns of a
mapping are found. The check goes over the columns once. What it remembers of them, the position
of every property, is all that is needed to look them up afterwards.
-/
namespace Joinery

theorem getElem?_insert_findIdx? {α : Type} {key : α → String} {seen : List α} {x : α}
    {positions : Std.HashMap String Nat}
    (known : ∀ k : String, positions[k]? = seen.findIdx? (key · == k))
    (fresh : key x ∉ seen.map key) (k : String) :
    (positions.insert (key x) seen.length)[k]? = (seen ++ [x]).findIdx? (key · == k) := by
  rw [Std.HashMap.getElem?_insert, known, List.findIdx?_append]
  by_cases same : key x = k
  · -- The key is new, so the search goes through all that was seen.
    have absent : seen.findIdx? (key · == k) = none := by
      rw [List.findIdx?_eq_none_iff]
      intro o member
      rw [beq_eq_false_iff_ne]
      intro repeated
      exact fresh (List.mem_map.mpr ⟨o, member, repeated.trans same.symm⟩)
    simp [same, absent]
  · simp [same]

namespace Mapping

structure Distinct (columns : List Column) : Prop where
  properties : (columns.map Column.property).Nodup
  names : (columns.map Column.name).Nodup

inductive Repeats (table : String) (before : List Column) (c : Column) : Fault → Prop where
  | property (again : c.property ∈ before.map Column.property) :
    Repeats table before c (.propertyMappedTwice c.property table)
  | name (fresh : c.property ∉ before.map Column.property)
    (again : c.name ∈ before.map Column.name) :
    Repeats table before c (.columnMappedTwice c.name table)

inductive Refusal (table : String) (columns : List Column) : Fault → Prop where
  | unnamed (empty : table = "") : Refusal table columns .tableNameMissing
  | bare (named : table ≠ "") (empty : columns = []) : Refusal table columns (.noColumns table)
  | repeated (named : table ≠ "") {before after : List Column} {c : Column} {fault : Fault}
    (parts : columns = before ++ c :: after) (distinct : Distinct before)
    (repeats : Repeats table before c fault) : Refusal table columns fault

section Check
variable {table : String} {seen before rest : List Column} {c : Column} {fault : Fault}

theorem Distinct.nil : Distinct [] := by
  constructor <;> exact List.nodup_nil

theorem Distinct.snoc (distinct : Distinct seen) (property : c.property ∉ seen.map Column.property)
    (name : c.name ∉ seen.map Column.name) : Distinct (seen ++ [c]) := by
  constructor
  · simpa using nodup_snoc distinct.properties property
  · simpa using nodup_snoc distinct.names name

theorem Distinct.fresh (distinct : Distinct (seen ++ c :: rest)) :
    c.property ∉ seen.map Column.property ∧ c.name ∉ seen.map Column.name := by
  have properties := distinct.properties
  have names := distinct.names
  simp only [List.map_append, List.map_cons] at properties names
  constructor
  · intro again
    exact (List.nodup_append.mp properties).2.2 _ again _ List.mem_cons_self rfl
  · intro again
    exact (List.nodup_append.mp names).2.2 _ again _ List.mem_cons_self rfl

theorem firstRepeat_append (distinct : Distinct (seen ++ before)) :
    firstRepeat table seen (before ++ rest) = firstRepeat table (seen ++ before) rest := by
  induction before generalizing seen with
  | nil => simp
  | cons d before ih =>
    obtain ⟨property, name⟩ := distinct.fresh
    have later : Distinct (seen ++ [d] ++ before) := by simpa using distinct
    rw [List.cons_append, firstRepeat, if_neg property, if_neg name, ih later]
    simp

theorem firstRepeat_eq_none_iff (distinct : Distinct seen) :
    firstRepeat table seen rest = none ↔ Distinct (seen ++ rest) := by
  constructor
  · intro sound
    obtain ⟨properties, names⟩ := nodup_of_firstRepeat sound distinct.properties distinct.names
    exact ⟨properties, names⟩
  · intro all
    have passed : firstRepeat table seen (rest ++ []) = none := firstRepeat_append all
    rwa [List.append_nil] at passed

theorem firstRepeat_eq_some_iff (distinct : Distinct seen) :
    firstRepeat table seen rest = some fault ↔
      ∃ before c after, rest = before ++ c :: after ∧ Distinct (seen ++ before) ∧
        Repeats table (seen ++ before) c fault := by
  constructor
  · intro found
    -- the columns that passed are moved to those seen, and none of them repeats another
    induction rest generalizing seen with
    | nil => cases found
    | cons d rest ih =>
      rw [firstRepeat] at found
      split at found
      · rename_i again
        cases found
        exact ⟨[], d, rest, rfl, by simpa using distinct, by simpa using .property again⟩
      · rename_i property
        split at found
        · rename_i again
          cases found
          exact ⟨[], d, rest, rfl, by simpa using distinct, by simpa using .name property again⟩
        · rename_i name
          obtain ⟨before, c, after, rfl, distinct, repeats⟩ :=
            ih (distinct.snoc property name) found
          rw [List.append_assoc] at distinct repeats
          exact ⟨d :: before, c, after, rfl, distinct, repeats⟩
  · rintro ⟨before, c, after, rfl, distinct, repeats⟩
    rw [firstRepeat_append distinct, firstRepeat]
    cases repeats with
    | property again => rw [if_pos again]
    | name fresh again => rw [if_neg fresh, if_pos again]

/-- The position of every property, from the column at position `i` on. A property is looked up
among the positions and a name among the names of the columns before. -/
def index (table : String) : List Column → Nat → Std.HashMap String Nat → Std.HashSet String →
    Except Fault (Std.HashMap String Nat)
  | [], _, positions, _ => .ok positions
  | c :: rest, i, positions, names =>
    if c.property ∈ positions then .error (.propertyMappedTwice c.property table)
    else if c.name ∈ names then .error (.columnMappedTwice c.name table)
    else index table rest (i + 1) (positions.insert c.property i) (names.insert c.name)

structure Indexed (seen : List Column) (positions : Std.HashMap String Nat)
    (names : Std.HashSet String) : Prop where
  position : ∀ property : String, positions[property]? = seen.findIdx? (·.property == property)
  name : ∀ name : String, name ∈ names ↔ name ∈ seen.map Column.name

section Index
variable {positions : Std.HashMap String Nat} {names : Std.HashSet String}

theorem Indexed.empty : Indexed [] ∅ ∅ := by
  constructor <;> simp

theorem Indexed.mem_iff (known : Indexed seen positions names) (property : String) :
    property ∈ positions ↔ property ∈ seen.map Column.property := by
  rw [Std.HashMap.mem_iff_isSome_getElem?, known.position]
  simp

theorem Indexed.snoc (known : Indexed seen positions names)
    (property : c.property ∉ seen.map Column.property) :
    Indexed (seen ++ [c]) (positions.insert c.property seen.length) (names.insert c.name) := by
  constructor
  · exact getElem?_insert_findIdx? known.position property
  · intro other
    rw [Std.HashSet.mem_insert, known.name]
    simp only [beq_iff_eq, List.map_append, List.map_cons, List.map_nil, List.mem_append,
      List.mem_singleton]
    tauto

theorem index_eq (known : Indexed seen positions names) :
    match firstRepeat table seen rest with
    | some fault => index table rest seen.length positions names = .error fault
    | none => ∃ all names', index table rest seen.length positions names = .ok all ∧
        Indexed (seen ++ rest) all names' := by
  -- the map and the set answer for the columns seen so far as a search through them would
  induction rest generalizing seen positions names with
  | nil => exact ⟨positions, names, rfl, by rwa [List.append_nil]⟩
  | cons c rest ih =>
    rw [firstRepeat, index]
    simp only [known.mem_iff, known.name]
    by_cases again : c.property ∈ seen.map Column.property
    · simp only [if_pos again]
    · simp only [if_neg again]
      by_cases taken : c.name ∈ seen.map Column.name
      · simp only [if_pos taken]
      · simp only [if_neg taken]
        have later := ih (known.snoc again)
        simpa using later

end Index
end Check

section Lookup
variable {m : Mapping} {property : String} {c : Column} {fault : Fault}

theorem distinct (m : Mapping) : Distinct m.columns := ⟨m.properties_nodup, m.names_nodup⟩

theorem firstRepeat_columns (m : Mapping) : firstRepeat m.table [] m.columns = none :=
  (firstRepeat_eq_none_iff .nil).mpr m.distinct

theorem position?_eq_none_iff :
    m.position? property = none ↔ ∀ c ∈ m.columns, c.property ≠ property := by
  unfold position?
  simp [List.findIdx?_eq_none_iff]

theorem column?_eq_none_iff :
    m.column? property = none ↔ ∀ c ∈ m.columns, c.property ≠ property := by
  unfold column?
  simp [List.find?_eq_none]

theorem column?_eq_some_iff :
    m.column? property = some c ↔ ∃ i, m.position? property = some i ∧ m.columns[i]? = some c := by
  have found : m.column? property = (m.position? property).bind (m.columns[·]?) :=
    List.find?_eq_bind_findIdx?_getElem?
  rw [found, Option.bind_eq_some_iff]

theorem requireColumn_eq_ok_iff :
    m.requireColumn property = .ok c ↔ m.column? property = some c := by
  unfold requireColumn
  cases m.column? property <;> simp

theorem requireColumn_eq_error_iff :
    m.requireColumn property = .error fault ↔
      m.column? property = none ∧ fault = .propertyNotMapped m.table property := by
  unfold requireColumn
  cases m.column? property <;> simp [eq_comm]

end Lookup

section Build
variable {table : String} {columns : List Column} {m : Mapping} {fault : Fault}

theorem ofColumns_eq_ok_iff :
    ofColumns table columns = .ok m ↔ m.table = table ∧ m.columns = columns := by
  constructor
  · intro built
    unfold ofColumns at built
    split at built
    · cases built
    · split at built
      · cases built
      · split at built
        · cases built
        · cases built
          exact ⟨rfl, rfl⟩
  · rintro ⟨rfl, rfl⟩
    unfold ofColumns
    rw [dif_neg m.table_ne, dif_neg m.columns_ne]
    split
    · rename_i found
      rw [m.firstRepeat_columns] at found
      cases found
    · rfl

theorem ofColumns_eq_error_iff_firstRepeat (named : table ≠ "") (filled : columns ≠ []) :
    ofColumns table columns = .error fault ↔ firstRepeat table [] columns = some fault := by
  unfold ofColumns
  rw [dif_neg named, dif_neg filled]
  split
  · rename_i found
    simp [found]
  · rename_i sound
    simp [sound]

theorem ofColumns_eq_error_iff :
    ofColumns table columns = .error fault ↔ Refusal table columns fault := by
  have unnamed (empty : table = "") : ofColumns table columns = .error .tableNameMissing :=
    dif_pos empty
  have bare (named : table ≠ "") (empty : columns = []) :
      ofColumns table columns = .error (.noColumns table) := by
    unfold ofColumns
    rw [dif_neg named, dif_pos empty]
  constructor
  · intro refused
    by_cases empty : table = ""
    · rw [unnamed empty] at refused
      cases refused
      exact .unnamed empty
    · by_cases without : columns = []
      · rw [bare empty without] at refused
        cases refused
        exact .bare empty without
      · rw [ofColumns_eq_error_iff_firstRepeat empty without] at refused
        obtain ⟨before, c, after, parts, distinct, repeats⟩ :=
          (firstRepeat_eq_some_iff .nil).mp refused
        exact .repeated empty parts distinct repeats
  · intro refusal
    cases refusal with
    | unnamed empty => exact unnamed empty
    | bare named empty => exact bare named empty
    | repeated named parts distinct repeats =>
      rw [ofColumns_eq_error_iff_firstRepeat named (by simp [parts])]
      exact (firstRepeat_eq_some_iff .nil).mpr ⟨_, _, _, parts, distinct, repeats⟩

theorem ofColumns_accepts_iff :
    (∃ m, ofColumns table columns = .ok m) ↔ table ≠ "" ∧ columns ≠ [] ∧ Distinct columns := by
  simp only [ofColumns_eq_ok_iff]
  constructor
  · rintro ⟨m, rfl, rfl⟩
    exact ⟨m.table_ne, m.columns_ne, m.distinct⟩
  · rintro ⟨named, filled, distinct⟩
    exact ⟨⟨table, columns, named, filled, distinct.properties, distinct.names⟩, rfl, rfl⟩

theorem index_columns (m : Mapping) :
    ∃ positions, index m.table m.columns 0 ∅ ∅ = .ok positions ∧
      ∀ property : String, positions[property]? = m.position? property := by
  have checked := @index_eq m.table [] m.columns ∅ ∅ Indexed.empty
  rw [m.firstRepeat_columns] at checked
  obtain ⟨positions, _, passed, known⟩ := checked
  exact ⟨positions, passed, known.position⟩

theorem index_eq_error_iff (named : table ≠ "") (filled : columns ≠ []) :
    index table columns 0 ∅ ∅ = .error fault ↔ ofColumns table columns = .error fault := by
  rw [ofColumns_eq_error_iff_firstRepeat named filled]
  have checked := @index_eq table [] columns ∅ ∅ Indexed.empty
  cases found : firstRepeat table [] columns with
  | some first =>
    rw [found] at checked
    have stopped : index table columns 0 ∅ ∅ = .error first := checked
    simp [stopped]
  | none =>
    rw [found] at checked
    obtain ⟨positions, _, passed, -⟩ := checked
    have passed : index table columns 0 ∅ ∅ = .ok positions := passed
    simp [passed]

end Build

namespace Definition

def call (d : Definition) (c : Column) : Definition :=
  if c.identity then d.identity c.property c.name c.type else d.column c.property c.name c.type

theorem call_eq_add (d : Definition) (c : Column) : d.call c = d.add c := by
  unfold call
  obtain ⟨property, name, type, identity⟩ := c
  cases identity <;> rfl

theorem foldl_call (d : Definition) (columns : List Column) :
    columns.foldl call d = ⟨d.table, d.columns ++ columns⟩ := by
  induction columns generalizing d with
  | nil => simp
  | cons c columns ih =>
    rw [List.foldl_cons, call_eq_add, ih]
    simp [add]

theorem build_definition (m : Mapping) : m.definition.build = .ok m :=
  ofColumns_eq_ok_iff.mpr ⟨rfl, rfl⟩

end Definition

structure Lookups (m : Mapping) : Prop where
  position : ∀ property i,
    m.position? property = some i ↔ ∃ c, m.columns[i]? = some c ∧ c.property = property
  column : ∀ property c,
    m.column? property = some c ↔ ∃ i, m.position? property = some i ∧ m.columns[i]? = some c
  required : ∀ property c, m.requireColumn property = .ok c ↔ m.column? property = some c
  missing : ∀ property,
    (m.position? property = none ↔ ∀ c ∈ m.columns, c.property ≠ property) ∧
      (m.column? property = none ↔ ∀ c ∈ m.columns, c.property ≠ property) ∧
      ∀ fault, m.requireColumn property = .error fault ↔
        (∀ c ∈ m.columns, c.property ≠ property) ∧ fault = .propertyNotMapped m.table property

theorem lookups (m : Mapping) : Lookups m where
  position _ _ := position?_eq_some_iff
  column _ _ := column?_eq_some_iff
  required _ _ := requireColumn_eq_ok_iff
  missing property := by
    refine ⟨position?_eq_none_iff, column?_eq_none_iff, ?_⟩
    intro fault
    rw [requireColumn_eq_error_iff, column?_eq_none_iff]

/-- There is a mapping of a table and columns when both are given and no property and no name
repeats. What is told otherwise is the first thing wrong, and a mapping that is built answers for
every property by the columns it was built from. -/
theorem built_from_columns (table : String) (columns : List Column) :
    ((∃ m, ofColumns table columns = .ok m) ↔ table ≠ "" ∧ columns ≠ [] ∧ Distinct columns) ∧
      (∀ fault, ofColumns table columns = .error fault ↔ Refusal table columns fault) ∧
      (table ≠ "" → columns ≠ [] → ∀ fault,
        index table columns 0 ∅ ∅ = .error fault ↔ ofColumns table columns = .error fault) ∧
      (columns.foldl Definition.call (.start table)).build = ofColumns table columns ∧
      ∀ m, ofColumns table columns = .ok m →
        m.table = table ∧ m.columns = columns ∧ m.definition.build = .ok m ∧ Lookups m ∧
          ∃ positions, index table columns 0 ∅ ∅ = .ok positions ∧
            ∀ property : String, positions[property]? = m.position? property := by
  refine ⟨ofColumns_accepts_iff, fun _ => ofColumns_eq_error_iff,
    fun named filled _ => index_eq_error_iff named filled, ?_, ?_⟩
  · rw [Definition.foldl_call]
    rfl
  · intro m built
    obtain ⟨rfl, rfl⟩ := ofColumns_eq_ok_iff.mp built
    exact ⟨rfl, rfl, Definition.build_definition m, m.lookups, m.index_columns⟩

theorem built_from_columns_person :
    let columns : List Column :=
      [⟨"ID", "person_id", .integer, true⟩, ⟨"Name", "name", .text, false⟩]
    ∃ m, ofColumns "person" columns = .ok m ∧ m.definition.build = .ok m ∧
      m.position? "Name" = some 1 ∧
      m.requireColumn "Age" = .error (.propertyNotMapped "person" "Age") := by
  intro columns
  have all := built_from_columns "person" columns
  obtain ⟨m, built⟩ := all.1.mpr ⟨by decide, by decide, by decide, by decide⟩
  obtain ⟨table, known, again, lookups, -⟩ := all.2.2.2.2 m built
  have name : m.position? "Name" = some 1 := by
    rw [lookups.position, known]
    exact ⟨_, rfl, rfl⟩
  have age : m.requireColumn "Age" = .error (.propertyNotMapped "person" "Age") := by
    rw [(lookups.missing "Age").2.2, known, table]
    exact ⟨by decide, rfl⟩
  exact ⟨m, built, again, name, age⟩

end Mapping
end Joinery
