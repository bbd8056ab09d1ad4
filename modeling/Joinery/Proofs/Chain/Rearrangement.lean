import Joinery.Chain.Run
import Joinery.Proofs.Chain.Lookup

/-!
Results do not depend on where their columns stand. As long as every mapped column is under
its own name once, the columns of a result can be put in any order, and others can be left
out: each store finds the cells it found before and asks them in the order of its mapping, so
that the same rows give the same results and fail for the same reason.
-/
namespace Joinery
open Sql

def arranged {α : Type} (order : List Nat) (xs : List α) : List α := order.filterMap (xs[·]?)

def Row.arranged (order : List Nat) (r : Row) : Row := ⟨Joinery.arranged order r.cells⟩

def Event.arranged (order : List Nat) : Event → Event
  | .row r => .row (r.arranged order)
  | .failure cause => .failure cause

def Cursor.arranged (order : List Nat) (c : Cursor) : Cursor :=
  ⟨Joinery.arranged order c.columns, c.events.map (Event.arranged order)⟩

abbrev MovesTo (order : List Nat) (i j : Nat) : Prop := order[j]? = some i

theorem getElem?_arranged {α : Type} {order : List Nat} {xs : List α}
    (inside : ∀ i ∈ order, i < xs.length) (j : Nat) :
    (arranged order xs)[j]? = order[j]?.bind (xs[·]?) := by
  induction order generalizing j with
  | nil => simp [arranged]
  | cons i rest ih =>
    have within : i < xs.length := inside i (by simp)
    have here : xs[i]? = some xs[i] := List.getElem?_eq_getElem within
    have split : arranged (i :: rest) xs = xs[i] :: arranged rest xs := by simp [arranged, here]
    rw [split]
    cases j with
    | zero => simp [here]
    | succ j => simpa using ih (fun k member => inside k (by simp [member])) j

theorem getElem?_moved {α : Type} {order : List Nat} {xs : List α}
    (inside : ∀ i ∈ order, i < xs.length) {i j : Nat} (moves : MovesTo order i j) :
    (arranged order xs)[j]? = xs[i]? := by
  rw [getElem?_arranged inside, moves, Option.bind_some]

theorem position_unique {names : List String} {name : String} (once : names.count name = 1)
    {i j : Nat} (here : names[i]? = some name) (there : names[j]? = some name) : i = j := by
  induction names generalizing i j with
  | nil => simp at here
  | cons first rest ih =>
    -- the name is once in the list: here and not later, or only later
    by_cases same : first = name
    · have absent : name ∉ rest := by simpa [same, List.count_eq_zero] using once
      have outside (k : Nat) : rest[k]? ≠ some name := fun found =>
        absent (List.mem_of_getElem? found)
      cases i with
      | zero =>
        cases j with
        | zero => rfl
        | succ j => exact absurd there (outside j)
      | succ i => exact absurd here (outside i)
    · have later : rest.count name = 1 := by rwa [List.count_cons_of_ne same] at once
      cases i with
      | zero => exact absurd (Option.some.inj here) same
      | succ i =>
        cases j with
        | zero => exact absurd (Option.some.inj there) same
        | succ j => rw [ih later here there]

/-- An arrangement of the columns under a header that has a name once and keeps it. -/
structure Keeps (order : List Nat) (header : List String) (name : String) : Prop where
  once : header.count name = 1
  kept : ∀ i, header[i]? = some name → i ∈ order

section Layout
variable {order : List Nat} {header : List String} (inside : ∀ i ∈ order, i < header.length)
include inside

theorem ordinal_arranged {name : String} (keeps : Keeps order header name) :
    ∃ i j, ordinal? header name = some i ∧ ordinal? (arranged order header) name = some j ∧
      MovesTo order i j := by
  have member : name ∈ header := List.count_pos_iff.mp (by rw [keeps.once]; exact Nat.one_pos)
  obtain ⟨i, found, here⟩ := exists_ordinal member
  have listed : name ∈ arranged order header :=
    List.mem_filterMap.mpr ⟨i, keeps.kept i here, here⟩
  -- Names like this one may have moved before it, but it is still there under its own.
  obtain ⟨j, found', there⟩ := exists_ordinal listed
  rw [getElem?_arranged inside] at there
  obtain ⟨k, moves, same⟩ := Option.bind_eq_some_iff.mp there
  have unmoved : k = i := position_unique keeps.once same here
  exact ⟨i, j, found, found', unmoved ▸ moves⟩

theorem locate_arranged (aliasName lead : String) {cs : List Column}
    (keeps : ∀ c ∈ cs, Keeps order header (lead ++ c.name)) :
    ∃ ordinals moved, locate header aliasName lead cs = .ok ordinals ∧
      locate (arranged order header) aliasName lead cs = .ok moved ∧
      List.Forall₂ (MovesTo order) ordinals moved := by
  induction cs with
  | nil => exact ⟨[], [], rfl, rfl, .nil⟩
  | cons c rest ih =>
    obtain ⟨i, j, found, found', moves⟩ := ordinal_arranged inside (keeps c (by simp))
    obtain ⟨ordinals, moved, located, located', all⟩ :=
      ih fun other member => keeps other (by simp [member])
    exact ⟨i :: ordinals, j :: moved, locate_cons.mpr ⟨i, _, found, located, rfl⟩,
      locate_cons.mpr ⟨j, _, found', located', rfl⟩, .cons moves all⟩

structure Moved (order : List Nat) (store store' : StoreLayout) : Prop where
  aliasName : store'.aliasName = store.aliasName
  presence : store'.presence = store.presence
  ordinals : List.Forall₂ (MovesTo order) store.ordinals store'.ordinals

theorem storeLayout_arranged (m : Member) (lead : String)
    (keeps : ∀ c ∈ m.mapping.columns, Keeps order header (lead ++ c.name)) :
    ∃ store store', StoreLayout.of header m lead = .ok store ∧
      StoreLayout.of (arranged order header) m lead = .ok store' ∧ Moved order store store' := by
  obtain ⟨ordinals, moved, located, located', all⟩ :=
    locate_arranged inside m.aliasName lead keeps
  refine ⟨⟨m.aliasName, ordinals, presencePositions m.mapping⟩,
    ⟨m.aliasName, moved, presencePositions m.mapping⟩, ?_, ?_, ⟨rfl, rfl, all⟩⟩
  · rw [StoreLayout.of, located]
    rfl
  · rw [StoreLayout.of, located']
    rfl

theorem storeLayouts_arranged {ms : List Member} {leads : List String}
    (keeps : ∀ s ∈ sought ms leads, Keeps order header s.name) :
    ∃ stores stores', storeLayouts header ms leads = .ok stores ∧
      storeLayouts (arranged order header) ms leads = .ok stores' ∧
      List.Forall₂ (Moved order) stores stores' := by
  induction ms generalizing leads with
  | nil => exact ⟨[], [], rfl, rfl, .nil⟩
  | cons m ms ih =>
    cases leads with
    | nil => exact ⟨[], [], rfl, rfl, .nil⟩
    | cons lead leads =>
      rw [sought_cons] at keeps
      have own : ∀ c ∈ m.mapping.columns, Keeps order header (lead ++ c.name) := by
        intro c member
        exact keeps ⟨m.aliasName, c.property, lead ++ c.name⟩
          (List.mem_append_left _ (List.mem_map_of_mem member))
      obtain ⟨store, store', found, found', moved⟩ := storeLayout_arranged inside m lead own
      obtain ⟨stores, stores', others, others', all⟩ :=
        ih fun s member => keeps s (List.mem_append_right _ member)
      exact ⟨store :: stores, store' :: stores', storeLayouts_cons.mpr ⟨_, _, found, others, rfl⟩,
        storeLayouts_cons.mpr ⟨_, _, found', others', rfl⟩, .cons moved all⟩

end Layout

section Reading
variable {order : List Nat} {r : Row} (inside : ∀ i ∈ order, i < r.cells.length)
include inside

theorem Row.isNull_arranged {i j : Nat} (moves : MovesTo order i j) :
    (r.arranged order).isNull j = r.isNull i := by
  rw [Row.isNull, Row.isNull, Row.arranged, getElem?_moved inside moves]

theorem Row.value_arranged {i j : Nat} (moves : MovesTo order i j) :
    (r.arranged order).value j = r.value i := by
  rw [Row.value, Row.value, Row.arranged, getElem?_moved inside moves]

theorem Row.anyPresent_arranged {ordinals moved : List Nat}
    (all : List.Forall₂ (MovesTo order) ordinals moved) :
    (r.arranged order).anyPresent moved = r.anyPresent ordinals := by
  induction all with
  | nil => rfl
  | cons moves _ ih => rw [Row.anyPresent, Row.anyPresent, isNull_arranged inside moves, ih]

end Reading

theorem forall₂_picked {α β : Type} {R : α → β → Prop} {xs : List α} {ys : List β}
    (all : List.Forall₂ R xs ys) (positions : List Nat) :
    List.Forall₂ R (positions.filterMap (xs[·]?)) (positions.filterMap (ys[·]?)) := by
  have entry (k : Nat) : (xs[k]? = none ∧ ys[k]? = none) ∨
      ∃ x y, xs[k]? = some x ∧ ys[k]? = some y ∧ R x y := by
    induction all generalizing k with
    | nil => simp
    | cons first _ ih =>
      cases k with
      | zero => exact .inr ⟨_, _, rfl, rfl, first⟩
      | succ k => simpa using ih k
  induction positions with
  | nil => exact .nil
  | cons k rest ih =>
    rcases entry k with ⟨left, right⟩ | ⟨x, y, left, right, related⟩
    · simpa [left, right] using ih
    · simpa [left, right] using ⟨related, ih⟩

namespace Reading
variable {ρ : Type} {order : List Nat} {row : Row} {stores stores' : List StoreLayout}

theorem fill_arranged (inside : ∀ i ∈ order, i < row.cells.length) (layout layout' : Layout)
    (q : Query) (aliasName : String) (records : RecordMapping ρ) {ordinals moved : List Nat}
    (all : List.Forall₂ (MovesTo order) ordinals moved) (index : Nat) (record : ρ) :
    Reading.fill ⟨row.arranged order, layout', q⟩ aliasName records index moved record =
      Reading.fill ⟨row, layout, q⟩ aliasName records index ordinals record := by
  induction all generalizing index record with
  | nil => rfl
  | cons moves _ ih =>
    simp only [fill, executionError, Row.isNull_arranged inside moves,
      Row.value_arranged inside moves, ih]

theorem read_arranged (inside : ∀ i ∈ order, i < row.cells.length)
    (all : List.Forall₂ (Moved order) stores stores') (q : Query) (index : Nat)
    (records : RecordMapping ρ) :
    Reading.read ⟨row.arranged order, ⟨stores'⟩, q⟩ index records =
      Reading.read ⟨row, ⟨stores⟩, q⟩ index records := by
  by_cases within : index < stores.length
  · have within' : index < stores'.length := by rwa [← all.length_eq]
    have moved : Moved order stores[index] stores'[index] := all.get within within'
    -- positions among the columns of a store stay; only their cells have moved
    have presence := forall₂_picked moved.ordinals stores[index].presence
    have present := Row.anyPresent_arranged inside presence
    have filled := fill_arranged inside ⟨stores⟩ ⟨stores'⟩ q stores[index].aliasName records
      moved.ordinals 0 records.blank
    unfold read
    dsimp only
    rw [List.getElem?_eq_getElem within, List.getElem?_eq_getElem within']
    dsimp only
    rw [moved.aliasName, moved.presence, present, filled]
    rfl
  · have beyond : stores[index]? = none := List.getElem?_eq_none (by omega)
    have beyond' : stores'[index]? = none :=
      List.getElem?_eq_none (by rw [← all.length_eq]; omega)
    simp only [read, beyond, beyond']

end Reading

theorem Collected.drain_arranged {τ : Type} {order : List Nat} (build : Row → Except Error τ)
    {build' : Row → Except Error τ} (wrap : String → Error) {events : List Event}
    (same : ∀ r, .row r ∈ events → build' (r.arranged order) = build r) (skip : Nat)
    (left : Option Nat) :
    drain build' wrap skip left (events.map (Event.arranged order)) =
      drain build wrap skip left events := by
  induction events generalizing skip left with
  | nil => simp [drain]
  | cons event rest ih =>
    have later := ih fun r member => same r (by simp [member])
    cases event with
    | failure cause => simp [drain, Event.arranged]
    | row r =>
      have own := same r (by simp)
      cases skip with
      | succ skip => simp only [List.map_cons, Event.arranged, drain, later]
      | zero => simp only [List.map_cons, Event.arranged, drain, later, own]

namespace Chain
variable {ρ : Type} {order : List Nat}

theorem build_arranged (c : Chain ρ) {row : Row} {stores stores' : List StoreLayout}
    (inside : ∀ i ∈ order, i < row.cells.length)
    (all : List.Forall₂ (Moved order) stores stores') (q : Query) :
    c.build ⟨row.arranged order, ⟨stores'⟩, q⟩ = c.build ⟨row, ⟨stores⟩, q⟩ := by
  rw [build_eq, build_eq, reads, reads]
  simp only [Reading.read_arranged inside all]

theorem collect_arranged (c : Chain ρ) (q : Query) (w : Window) {cursor : Cursor}
    (keeps : ∀ s ∈ sought c.members q.prefixes, Keeps order cursor.columns s.name)
    (inside : ∀ i ∈ order, i < cursor.columns.length)
    (full : ∀ r, .row r ∈ cursor.events → r.cells.length = cursor.columns.length) :
    c.collect q w (cursor.arranged order) = c.collect q w cursor := by
  obtain ⟨stores, stores', resolved, resolved', all⟩ := storeLayouts_arranged inside keeps
  have before : Layout.resolve cursor.columns c.members q.prefixes = .ok ⟨stores⟩ :=
    resolve_layout.mpr resolved
  have after : Layout.resolve (arranged order cursor.columns) c.members q.prefixes = .ok ⟨stores'⟩ :=
    resolve_layout.mpr resolved'
  have same : ∀ r, .row r ∈ cursor.events →
      c.build ⟨r.arranged order, ⟨stores'⟩, q⟩ = c.build ⟨r, ⟨stores⟩, q⟩ := by
    intro r member
    refine build_arranged c (fun i listed => ?_) all q
    rw [full r member]
    exact inside i listed
  unfold collect Cursor.collect Cursor.arranged
  dsimp only
  rw [before, after]
  dsimp only
  -- nothing is asked for under a limit of zero
  by_cases nothing : w.limit = some 0
  · simp [Collected.window, nothing]
  · simp only [Collected.window, nothing, if_false]
    exact Collected.drain_arranged (fun r => c.build ⟨r, ⟨stores⟩, q⟩) _ same w.start w.limit

/-- What is collected does not depend on the order of the columns. -/
theorem collect_rearranged (c : Chain ρ) (q : Query) (w : Window) {cursor : Cursor}
    (once : ∀ s ∈ sought c.members q.prefixes, cursor.columns.count s.name = 1)
    (full : ∀ r, .row r ∈ cursor.events → r.cells.length = cursor.columns.length)
    (permutes : order.Perm (List.range cursor.columns.length)) :
    c.collect q w (cursor.arranged order) = c.collect q w cursor := by
  have positions (i : Nat) : i ∈ order ↔ i < cursor.columns.length := by
    rw [permutes.mem_iff, List.mem_range]
  have keeps : ∀ s ∈ sought c.members q.prefixes, Keeps order cursor.columns s.name := by
    intro s member
    refine ⟨once s member, fun i here => (positions i).mpr ?_⟩
    obtain ⟨inside, -⟩ := List.getElem?_eq_some_iff.mp here
    exact inside
  exact collect_arranged c q w keeps (fun i => (positions i).mp) full

theorem collect_rearranged_sample :
    let q := (compile .tsql Sample.pair.members (.select []) default).query
    let cell (n : Int64) : Cell := .ofValue (.integer n)
    let failing : Cell := ⟨.ok false, .error "lost"⟩
    let cursor : Cursor := ⟨["a_id", "A_id", "A_name", "more", "B_id", "B_author_id", "more", "B_place"],
      [.row ⟨[cell 9, cell 1, cell 2, cell 9, cell 3, cell 1, failing, cell 4]⟩,
        .row ⟨[cell 9, cell 1, failing, cell 9, cell 3, cell 1, failing, failing]⟩]⟩
    let order := [7, 6, 5, 4, 3, 2, 0, 1]
    Sample.pair.collect q .all (cursor.arranged order) = Sample.pair.collect q .all cursor ∧
      (Sample.pair.collect q .all cursor).results.length = 1 ∧
      (Sample.pair.collect q .all cursor).failure = some (.execution q.sql q.params "lost") := by
  intro q cell failing cursor order
  have once : ∀ s ∈ sought Sample.pair.members q.prefixes, cursor.columns.count s.name = 1 := by
    decide
  have full : ∀ r, .row r ∈ cursor.events → r.cells.length = cursor.columns.length := by
    intro r member
    rcases List.mem_cons.mp member with here | later
    · cases here
      rfl
    · cases List.mem_singleton.mp later
      rfl
  exact ⟨collect_rearranged Sample.pair q .all once full (by decide), rfl, rfl⟩

end Chain
end Joinery
