import Mathlib.Data.List.Nodup
import Mathlib.Data.List.Pairwise
import Mathlib.Data.Option.Basic
import Joinery.Proofs.Chain.Layout
import Joinery.Proofs.Chain.Materialization

/-!
Which columns of a result are read. A name that is there is found as it is, and one that is
not gives way to the first name that differs from it in the case of ASCII letters alone; the
first column that finds neither is reported. Two mapped columns are read from one cell only if
they belong to one store, their names differ in case alone and one of them is not there.
-/
namespace Joinery
open Sql

def lowered (name : String) : List Char := name.toList.map Char.toLower

section Case
variable {a b : String}

theorem sameIgnoringCase_iff : sameIgnoringCase a b = true ↔ lowered a = lowered b := by
  simp [sameIgnoringCase, lowered]

theorem sameIgnoringCase_congr (alike : sameIgnoringCase a b = true) (x : String) :
    sameIgnoringCase x a = sameIgnoringCase x b := by
  have same : lowered a = lowered b := sameIgnoringCase_iff.mp alike
  rw [Bool.eq_iff_iff, sameIgnoringCase_iff, sameIgnoringCase_iff, same]

theorem sameIgnoringCase_comm (a b : String) : sameIgnoringCase a b = sameIgnoringCase b a := by
  simp [sameIgnoringCase, Bool.beq_comm]

theorem sameIgnoringCase_lead (lead a b : String) :
    sameIgnoringCase (lead ++ a) (lead ++ b) = sameIgnoringCase a b := by
  rw [Bool.eq_iff_iff, sameIgnoringCase_iff, sameIgnoringCase_iff]
  simp [lowered]

theorem letter_of_alike {d : Dialect} {s s' : Seat}
    (alike : sameIgnoringCase (columnPrefix d s ++ a) (columnPrefix d s' ++ b) = true) :
    s.letter = s'.letter := by
  have apart : ∀ i < 26, ∀ j < 26,
      (Char.ofNat (65 + i)).toLower = (Char.ofNat (65 + j)).toLower → i = j := by decide
  have chars := sameIgnoringCase_iff.mp alike
  simp only [lowered, columnPrefix, Seat.letter, letter, String.toList_append,
    String.toList_singleton, List.cons_append, List.nil_append, List.map_cons,
    List.cons.injEq] at chars
  have index := apart _ (Nat.mod_lt s.index (by decide)) _ (Nat.mod_lt s'.index (by decide)) chars.1
  rw [Seat.letter, Seat.letter, letter, letter, maxStores, index]

end Case

def Found (header : List String) (name : String) : Prop :=
  ∃ x ∈ header, sameIgnoringCase x name = true

section Ordinal
variable {header : List String} {name other : String} {i : Nat}

theorem ordinal_of_mem (member : name ∈ header) : ordinal? header name = header.idxOf? name := by
  obtain ⟨i, first⟩ := Option.isSome_iff_exists.mp (List.isSome_idxOf?.mpr member)
  have exact_name : header.findIdx? (· == name) = some i := first
  rw [ordinal?, exact_name, Option.some_or, first]

theorem ordinal_of_not_mem (absent : name ∉ header) :
    ordinal? header name =
      (header.find? (sameIgnoringCase · name)).bind fun x => header.idxOf? x := by
  have exact_name : header.findIdx? (· == name) = none := List.idxOf?_eq_none_iff.mpr absent
  rw [ordinal?, exact_name, Option.none_or, List.findIdx?_eq_bind_find?_idxOf?]

theorem getElem?_of_idxOf? (first : header.idxOf? name = some i) : header[i]? = some name := by
  obtain ⟨inside, here, -⟩ := List.idxOf?_eq_some_iff.mp first
  rw [List.getElem?_eq_getElem inside, here]

theorem exists_ordinal (member : name ∈ header) :
    ∃ i, ordinal? header name = some i ∧ header[i]? = some name := by
  obtain ⟨i, first⟩ := Option.isSome_iff_exists.mp (List.isSome_idxOf?.mpr member)
  exact ⟨i, (ordinal_of_mem member).trans first, getElem?_of_idxOf? first⟩

theorem ordinal_eq_none : ordinal? header name = none ↔ ¬ Found header name := by
  by_cases member : name ∈ header
  · have own : Found header name := ⟨name, member, sameIgnoringCase_iff.mpr rfl⟩
    simp [ordinal_of_mem member, member, own]
  · have like : Found header name ↔ ∃ x, header.find? (sameIgnoringCase · name) = some x := by
      rw [← Option.isSome_iff_exists, List.find?_isSome, Found]
    rw [ordinal_of_not_mem member, like]
    cases first : header.find? (sameIgnoringCase · name) with
    | none => simp
    | some x => simp [List.mem_of_find?_eq_some first]

/-- The name is not there and gives way to the other one, or both give way to a third. -/
structure Confused (header : List String) (name other : String) : Prop where
  different : name ≠ other
  absent : name ∉ header
  alike : sameIgnoringCase name other = true
  first : other ∈ header → header.find? (sameIgnoringCase · name) = some other

theorem ordinal_of_confused (confused : Confused header name other) :
    ordinal? header name = ordinal? header other := by
  rw [ordinal_of_not_mem confused.absent]
  by_cases member : other ∈ header
  · rw [confused.first member, ordinal_of_mem member, Option.bind_some]
  · rw [ordinal_of_not_mem member]
    simp only [sameIgnoringCase_congr confused.alike]

theorem stands_in (absent : name ∉ header) (found : ordinal? header name = some i) :
    ∃ x, header[i]? = some x ∧ sameIgnoringCase name x = true ∧
      header.find? (sameIgnoringCase · name) = some x := by
  rw [ordinal_of_not_mem absent] at found
  obtain ⟨x, first, position⟩ := Option.bind_eq_some_iff.mp found
  have alike : sameIgnoringCase x name = true := by simpa using List.find?_some first
  rw [sameIgnoringCase_comm] at alike
  exact ⟨x, getElem?_of_idxOf? position, alike, first⟩

theorem confused_of_ordinal (different : name ≠ other) (found : ordinal? header name = some i)
    (shared : ordinal? header other = some i) :
    Confused header name other ∨ Confused header other name := by
  have own {n : String} (member : n ∈ header) (position : ordinal? header n = some i) :
      header[i]? = some n := by
    rw [ordinal_of_mem member] at position
    exact getElem?_of_idxOf? position
  -- Of two names that are there neither gives way; otherwise the one that is not there does.
  by_cases member : name ∈ header
  · by_cases member' : other ∈ header
    · have same := (own member found).symm.trans (own member' shared)
      exact absurd (Option.some.inj same) different
    · obtain ⟨x, here, alike, first⟩ := stands_in member' shared
      have same : name = x := Option.some.inj ((own member found).symm.trans here)
      subst same
      exact .inr ⟨different.symm, member', alike, fun _ => first⟩
  · obtain ⟨x, here, alike, first⟩ := stands_in member found
    by_cases member' : other ∈ header
    · have same : other = x := Option.some.inj ((own member' shared).symm.trans here)
      subst same
      exact .inl ⟨different, member, alike, fun _ => first⟩
    · obtain ⟨y, here', alike', -⟩ := stands_in member' shared
      have same : x = y := Option.some.inj (here.symm.trans here')
      subst same
      rw [← sameIgnoringCase_congr alike'] at alike
      exact .inl ⟨different, member, alike, fun present => absurd present member'⟩

theorem nodup_ordinals {names : List String} (distinct : names.Nodup) {ordinals : List Nat}
    (found : names.map (ordinal? header) = ordinals.map some) :
    ordinals.Nodup ↔ ∀ n ∈ names, ∀ m ∈ names, ¬ Confused header n m := by
  have places : ordinals.Nodup ↔ (names.map (ordinal? header)).Nodup := by
    rw [found, List.nodup_map_iff (Option.some_injective Nat)]
  rw [places, List.nodup_map_iff_inj_on distinct]
  constructor
  · intro injective n first m second confused
    exact confused.different (injective n first m second (ordinal_of_confused confused))
  · intro apart n first m second same
    by_contra different
    have listed : ordinal? header n ∈ ordinals.map some := found ▸ List.mem_map_of_mem first
    obtain ⟨i, -, own⟩ := List.mem_map.mp listed
    -- a shared cell is that of one name, and the other one gave way to it
    rcases confused_of_ordinal different own.symm (same.symm.trans own.symm) with confused | confused
    · exact apart n first m second confused
    · exact apart m second n first confused

end Ordinal

structure Sought where
  aliasName : String
  property : String
  name : String

def sought (ms : List Member) (leads : List String) : List Sought :=
  (ms.zip leads).flatMap fun p => p.1.mapping.columns.map fun c =>
    ⟨p.1.aliasName, c.property, p.2 ++ c.name⟩

theorem sought_cons (m : Member) (ms : List Member) (lead : String) (leads : List String) :
    sought (m :: ms) (lead :: leads) =
      (m.mapping.columns.map fun c => ⟨m.aliasName, c.property, lead ++ c.name⟩) ++ sought ms leads :=
  rfl

namespace Sought

def missing (s : Sought) : Error := .missingColumn s.aliasName s.property s.name

def place (header : List String) (s : Sought) : Except Error Nat :=
  match ordinal? header s.name with
  | none => .error s.missing
  | some i => .ok i

theorem place_error {header : List String} {s : Sought} {e : Error} :
    s.place header = .error e ↔ ¬ Found header s.name ∧ e = s.missing := by
  rw [← ordinal_eq_none, place]
  cases ordinal? header s.name <;> simp [eq_comm]

theorem place_found {header : List String} {s : Sought} :
    (∃ i, s.place header = .ok i) ↔ Found header s.name := by
  rw [← not_iff_not, ← ordinal_eq_none, place]
  cases ordinal? header s.name <;> simp

end Sought

def FirstMissing (header : List String) (columns : List Sought) (e : Error) : Prop :=
  ∃ (k : Nat) (s : Sought), columns[k]? = some s ∧ ¬ Found header s.name ∧ e = s.missing ∧
    ∀ j < k, ∀ b, columns[j]? = some b → Found header b.name

def Layout.ordinals (layout : Layout) : List Nat := layout.stores.flatMap StoreLayout.ordinals

section Resolve
variable {header : List String} {ms : List Member} {leads : List String}
open Chain

theorem inOrder_append {α : Type} (xs ys : List (Except Error α)) :
    inOrder (xs ++ ys) = (inOrder xs).bind fun vs => (inOrder ys).map (vs ++ ·) := by
  induction xs with
  | nil => cases others : inOrder ys <;> simp [inOrder, others, Except.bind, Except.map]
  | cons x rest ih =>
    cases x with
    | error e => rfl
    | ok v =>
      rw [List.cons_append, inOrder, inOrder, ih]
      cases inOrder rest with
      | error e => rfl
      | ok vs => cases inOrder ys <;> rfl

theorem locate_eq (aliasName lead : String) (cs : List Column) :
    locate header aliasName lead cs =
      inOrder ((cs.map fun c => ⟨aliasName, c.property, lead ++ c.name⟩).map (Sought.place header)) := by
  induction cs with
  | nil => rfl
  | cons c rest ih =>
    rw [List.map_cons, List.map_cons, locate, Sought.place]
    cases ordinal? header (lead ++ c.name) with
    | none => rfl
    | some i =>
      dsimp only
      rw [ih, inOrder]

theorem storeLayouts_ordinals :
    (storeLayouts header ms leads).map (·.flatMap StoreLayout.ordinals) =
      inOrder ((sought ms leads).map (Sought.place header)) := by
  induction ms generalizing leads with
  | nil => rfl
  | cons m ms ih =>
    cases leads with
    | nil => rfl
    | cons lead leads =>
      rw [sought_cons, List.map_append, inOrder_append, ← ih, ← locate_eq, storeLayouts, StoreLayout.of]
      cases locate header m.aliasName lead m.mapping.columns with
      | error e => rfl
      | ok ordinals => cases storeLayouts header ms leads <;> rfl

theorem resolve_ordinals : (Layout.resolve header ms leads).map Layout.ordinals =
    inOrder ((sought ms leads).map (Sought.place header)) := by
  rw [← storeLayouts_ordinals, Layout.resolve]
  cases storeLayouts header ms leads <;> rfl

theorem resolve_error {e : Error} :
    Layout.resolve header ms leads = .error e ↔ FirstMissing header (sought ms leads) e := by
  have flat : Layout.resolve header ms leads = .error e ↔
      inOrder ((sought ms leads).map (Sought.place header)) = .error e := by
    rw [← resolve_ordinals]
    cases Layout.resolve header ms leads <;> simp [Except.map]
  rw [flat, inOrder_error]
  constructor
  · rintro ⟨k, failed, before⟩
    rw [List.getElem?_map] at failed
    obtain ⟨s, here, own⟩ := Option.map_eq_some_iff.mp failed
    obtain ⟨absent, same⟩ := Sought.place_error.mp own
    refine ⟨k, s, here, absent, same, ?_⟩
    intro j less b there
    obtain ⟨i, placed⟩ := before j less
    rw [List.getElem?_map, there] at placed
    exact Sought.place_found.mp ⟨i, Option.some.inj placed⟩
  · rintro ⟨k, s, here, absent, same, before⟩
    refine ⟨k, ?_, ?_⟩
    · rw [List.getElem?_map, here, Option.map_some, Sought.place_error.mpr ⟨absent, same⟩]
    · intro j less
      obtain ⟨inside, -⟩ := List.getElem?_eq_some_iff.mp here
      have there := List.getElem?_eq_getElem (Nat.lt_trans less inside)
      obtain ⟨i, placed⟩ := Sought.place_found.mpr (before j less _ there)
      exact ⟨i, by rw [List.getElem?_map, there, Option.map_some, placed]⟩

theorem ordinals_of_resolved {layout : Layout}
    (resolved : Layout.resolve header ms leads = .ok layout) :
    ((sought ms leads).map Sought.name).map (ordinal? header) = layout.ordinals.map some := by
  have flat : (Layout.resolve header ms leads).map Layout.ordinals =
      inOrder ((sought ms leads).map (Sought.place header)) := resolve_ordinals
  rw [resolved] at flat
  have placed := inOrder_ok.mp flat.symm
  have answers := congrArg (List.map Except.toOption) placed
  rw [List.map_map, List.map_map] at answers
  rw [List.map_map]
  refine Eq.trans (List.map_congr_left fun s _ => ?_) answers
  rw [Function.comp_apply, Function.comp_apply, Sought.place]
  cases ordinal? header s.name <;> rfl

end Resolve

theorem sought_names (d : Dialect) (members : List Member) :
    (sought members (prefixes d ⟨members⟩)).map Sought.name = (Plan.items d ⟨members⟩).map Item.name := by
  have own : members = (Plan.seats ⟨members⟩).map Seat.member := (Plan.map_member_seats ⟨members⟩).symm
  have zipped : members.zip (prefixes d ⟨members⟩) =
      (Plan.seats ⟨members⟩).map fun s => (s.member, columnPrefix d s) := by
    rw [prefixes]
    conv_lhs => arg 1; rw [own]
    exact List.zip_map'
  rw [sought, zipped, Plan.items, List.flatMap_map, List.map_flatMap, List.map_flatMap]
  congr 1
  funext s
  rw [Seat.items, List.map_map, List.map_map]
  exact List.map_congr_left fun c _ => (name_item d s c).symm

theorem mem_item_names {d : Dialect} {p : Plan} {name : String} :
    name ∈ (p.items d).map Item.name ↔
      ∃ s ∈ p.seats, ∃ c ∈ s.member.mapping.columns, name = columnPrefix d s ++ c.name := by
  simp [Plan.items, Seat.items, name_item, eq_comm, and_assoc]

/-- Columns of different stores are never confused. -/
theorem confused_seat {members : List Member} {p : Plan} (accepted : Plan.ofMembers members = .ok p)
    {header : List String} {d : Dialect} {s s' : Seat} (first : s ∈ p.seats) (second : s' ∈ p.seats)
    {a b : String} (confused : Confused header (columnPrefix d s ++ a) (columnPrefix d s' ++ b)) :
    s = s' := by
  by_contra different
  have symmetric : Std.Symm fun s s' : Seat => s.letter ≠ s'.letter := ⟨fun _ _ apart => apart.symm⟩
  have apart := (Plan.letters_apart accepted).forall first second different
  exact apart (letter_of_alike confused.alike)

theorem not_confused_of_apart {header : List String} {lead : String} {m : Mapping}
    (apart : (m.columns.map fun c => lowered c.name).Nodup) {c c' : Column} (first : c ∈ m.columns)
    (second : c' ∈ m.columns) : ¬ Confused header (lead ++ c.name) (lead ++ c'.name) := by
  intro confused
  have alike := confused.alike
  rw [sameIgnoringCase_lead, sameIgnoringCase_iff] at alike
  have same : c = c' := List.inj_on_of_nodup_map apart first second alike
  exact confused.different (by rw [same])

/-- A lookup fails for the first column that has no name like its own in the result; otherwise
    the columns have cells of their own exactly if none is confused with another of its store. -/
theorem columns_share_iff {members : List Member} {p : Plan}
    (accepted : Plan.ofMembers members = .ok p) (d : Dialect) (orders : List SortOrder) (q : Query)
    (header : List String) :
    let leads := (compile d members (.select orders) q).query.prefixes
    (∀ e, Layout.resolve header members leads = .error e ↔
      FirstMissing header (sought members leads) e) ∧
    ∀ layout, Layout.resolve header members leads = .ok layout →
      (layout.ordinals.Nodup ↔ ∀ s ∈ p.seats, ∀ c ∈ s.member.mapping.columns,
        ∀ c' ∈ s.member.mapping.columns,
          ¬ Confused header (columnPrefix d s ++ c.name) (columnPrefix d s ++ c'.name)) ∧
      ((∀ m ∈ members, (m.mapping.columns.map fun c => lowered c.name).Nodup) →
        layout.ordinals.Nodup) := by
  intro leads
  have own : leads = prefixes d p := compile_select_prefixes accepted d orders q
  have distinct := items_names_nodup accepted d
  refine ⟨fun e => resolve_error, fun layout resolved => ?_⟩
  have found := ordinals_of_resolved resolved
  obtain ⟨rfl, -⟩ := Plan.ofMembers_ok accepted
  rw [own, sought_names] at found
  have shared : layout.ordinals.Nodup ↔ ∀ s ∈ Plan.seats ⟨members⟩,
      ∀ c ∈ s.member.mapping.columns, ∀ c' ∈ s.member.mapping.columns,
        ¬ Confused header (columnPrefix d s ++ c.name) (columnPrefix d s ++ c'.name) := by
    rw [nodup_ordinals distinct found]
    constructor
    · intro apart s seat c first c' second
      exact apart _ (mem_item_names.mpr ⟨s, seat, c, first, rfl⟩) _
        (mem_item_names.mpr ⟨s, seat, c', second, rfl⟩)
    · intro apart n listed m listed' confused
      obtain ⟨s, seat, c, first, rfl⟩ := mem_item_names.mp listed
      obtain ⟨s', seat', c', second, rfl⟩ := mem_item_names.mp listed'
      -- prefixes of different stores differ in their letter, whatever the case
      have same : s = s' := confused_seat accepted seat seat' confused
      subst same
      exact apart s seat c first c' second confused
  refine ⟨shared, fun apart => shared.mpr ?_⟩
  intro s seat c first c' second
  have member : s.member ∈ members := Plan.mem_seats.mpr ⟨s, seat, rfl⟩
  exact not_confused_of_apart (apart s.member member) first second

def Sample.coded : Member :=
  { Sql.Sample.authors with
    mapping := { Sql.Sample.authors.mapping with
      columns := [⟨"id", "id", .integer, true⟩, ⟨"code", "ID", .text, false⟩]
      columns_ne := by decide
      properties_nodup := by decide
      names_nodup := by decide }
    criteria := none }

theorem columns_share_iff_sample :
    let members := [Sample.coded, Sql.Sample.books]
    let leads := (compile .sqlite members (.select []) default).query.prefixes
    let header := ["A_ID", "A_id", "B_author_id", "B_id", "B_place"]
    FirstMissing ["A_id"] (sought members leads) (.missingColumn "books" "id" "B_id") ∧
      Layout.resolve header members leads =
        .ok ⟨[⟨"authors", [1, 0], [0]⟩, ⟨"books", [3, 2, 4], [0]⟩]⟩ ∧
      ∀ s ∈ Plan.seats ⟨members⟩, ∀ c ∈ s.member.mapping.columns, ∀ c' ∈ s.member.mapping.columns,
        ¬ Confused header (columnPrefix .sqlite s ++ c.name) (columnPrefix .sqlite s ++ c'.name) := by
  intro members leads header
  have accepted : Plan.ofMembers members = .ok ⟨members⟩ := rfl
  obtain ⟨missing, -⟩ := columns_share_iff accepted .sqlite [] default ["A_id"]
  obtain ⟨-, cells⟩ := columns_share_iff accepted .sqlite [] default header
  have resolved : Layout.resolve header members leads =
      .ok ⟨[⟨"authors", [1, 0], [0]⟩, ⟨"books", [3, 2, 4], [0]⟩]⟩ := rfl
  obtain ⟨shared, -⟩ := cells _ resolved
  exact ⟨(missing _).mp rfl, resolved, shared.mp (by decide)⟩

/-- A code that is not in the result is read from the number. -/
theorem code_read_from_id :
    let members := [Sample.coded, Sql.Sample.books]
    let leads := (compile .sqlite members (.select []) default).query.prefixes
    let header := ["A_id", "B_id", "B_author_id", "B_place"]
    Plan.ofMembers members = .ok ⟨members⟩ ∧ "A_ID" ∉ header ∧
      ∃ layout, Layout.resolve header members leads = .ok layout ∧
        layout.ordinals = [0, 0, 1, 2, 3] ∧ ¬ layout.ordinals.Nodup := by
  intro members leads header
  have resolved : Layout.resolve header members leads =
      .ok ⟨[⟨"authors", [0, 0], [0]⟩, ⟨"books", [1, 2, 3], [0]⟩]⟩ := rfl
  exact ⟨rfl, by decide, _, resolved, rfl, by decide⟩

end Joinery
