import Joinery.Chain.Layout
import Joinery.Proofs.Sql.Meaning
import Joinery.Proofs.Sql.SelectList

/-!
Results are laid out as their columns were selected. Under the names of the selected
items, every store finds its columns at the consecutive positions of its own items, and
reading its record hands each setter the cell of the item of its column.
-/
namespace Joinery
open Sql

theorem ordinal_of_nodup {names : List String} (nodup : names.Nodup) {i : Nat} {name : String}
    (found : names[i]? = some name) : ordinal? names name = some i := by
  obtain ⟨inside, value⟩ := List.getElem?_eq_some_iff.mp found
  have first : names.findIdx? (· == name) = some i := by
    rw [List.findIdx?_eq_some_iff_getElem]
    refine ⟨inside, by simp [value], ?_⟩
    intro j before
    have differ := List.pairwise_iff_getElem.mp nodup j i (by omega) inside before
    rw [value] at differ
    simp [differ]
  rw [ordinal?, first, Option.some_or]

theorem locate_cons {columns : List String} {aliasName lead : String} {c : Column} {cs : List Column}
    {ordinals : List Nat} :
    locate columns aliasName lead (c :: cs) = .ok ordinals ↔
      ∃ i later, ordinal? columns (lead ++ c.name) = some i ∧
        locate columns aliasName lead cs = .ok later ∧ ordinals = i :: later := by
  rw [locate]
  cases ordinal? columns (lead ++ c.name) with
  | none => simp
  | some i => cases locate columns aliasName lead cs <;> simp [Except.map, eq_comm]

theorem locate_consecutive {names before after : List String} {lead : String} {cs : List Column}
    (shape : names = before ++ cs.map (fun c => lead ++ c.name) ++ after) (nodup : names.Nodup)
    (aliasName : String) :
    locate names aliasName lead cs = .ok (List.range' before.length cs.length) := by
  induction cs generalizing before with
  | nil => rfl
  | cons c cs ih =>
    have here : names[before.length]? = some (lead ++ c.name) := by
      rw [shape]
      simp
    have rest : names = (before ++ [lead ++ c.name]) ++ cs.map (fun c => lead ++ c.name) ++ after := by
      rw [shape]
      simp
    have others := ih rest
    rw [List.length_append, List.length_singleton] at others
    rw [List.length_cons, List.range'_succ]
    exact locate_cons.mpr ⟨_, _, ordinal_of_nodup nodup here, others, rfl⟩

structure Placed (d : Dialect) (items : List Item) (s : Seat) (store : StoreLayout) : Prop where
  aliasName : store.aliasName = s.member.aliasName
  presence : store.presence = presencePositions s.member.mapping
  ordinals : ∃ start,
    store.ordinals = List.range' start s.member.mapping.columns.length ∧
      ∀ k c, s.member.mapping.columns[k]? = some c → items[start + k]? = some (s.item d c)

theorem storeLayouts_placed {d : Dialect} {items : List Item}
    (nodup : (items.map Item.name).Nodup) (index : Nat) (ms : List Member) (before : List Item)
    (shape : items = before ++ (Plan.seatsFrom index ms).flatMap (Seat.items d)) :
    ∃ stores, storeLayouts (items.map Item.name) ms
        ((Plan.seatsFrom index ms).map (columnPrefix d)) = .ok stores ∧
      stores.length = ms.length ∧
      ∀ (i : Nat) (s : Seat), (Plan.seatsFrom index ms)[i]? = some s →
        ∃ store, stores[i]? = some store ∧ Placed d items s store := by
  -- items of earlier stores are put aside, and each store starts where those end
  induction ms generalizing index before with
  | nil => exact ⟨[], rfl, rfl, fun i s found => by simp [Plan.seatsFrom] at found⟩
  | cons m ms ih =>
    have own : Seat.items d ⟨index, m⟩ = m.mapping.columns.map (Seat.item d ⟨index, m⟩) := rfl
    have split : items = before ++ Seat.items d ⟨index, m⟩
        ++ (Plan.seatsFrom (index + 1) ms).flatMap (Seat.items d) := by
      rw [shape, Plan.seatsFrom, List.flatMap_cons, List.append_assoc]
    obtain ⟨stores, resolved, length, placed⟩ := ih (index + 1) _ split
    have names : items.map Item.name = before.map Item.name
        ++ m.mapping.columns.map (fun c => columnPrefix d ⟨index, m⟩ ++ c.name)
        ++ ((Plan.seatsFrom (index + 1) ms).flatMap (Seat.items d)).map Item.name := by
      have renamed : Item.name ∘ Seat.item d ⟨index, m⟩ =
          fun c => columnPrefix d ⟨index, m⟩ ++ c.name := funext fun c => name_item d _ c
      rw [split, List.map_append, List.map_append, own, List.map_map, renamed]
    have located := locate_consecutive names nodup m.aliasName
    rw [List.length_map] at located
    let store : StoreLayout := ⟨m.aliasName,
      List.range' before.length m.mapping.columns.length, presencePositions m.mapping⟩
    refine ⟨store :: stores, ?_, by rw [List.length_cons, List.length_cons, length], ?_⟩
    · have first : StoreLayout.of (items.map Item.name) m (columnPrefix d ⟨index, m⟩) =
          .ok store := by
        unfold StoreLayout.of
        rw [located]
        rfl
      rw [Plan.seatsFrom, List.map_cons, storeLayouts, first]
      dsimp only
      rw [resolved]
      rfl
    · intro i s found
      cases i with
      | zero =>
        have same : ⟨index, m⟩ = s := by simpa [Plan.seatsFrom] using found
        subst same
        refine ⟨store, rfl, rfl, rfl, before.length, rfl, ?_⟩
        intro k c column
        obtain ⟨inside, value⟩ := List.getElem?_eq_some_iff.mp column
        rw [split, List.append_assoc, List.getElem?_append_right (by omega),
          Nat.add_sub_cancel_left, own, List.getElem?_append_left (by simpa using inside),
          List.getElem?_map, column]
        rfl
      | succ i =>
        rw [Plan.seatsFrom, List.getElem?_cons_succ] at found
        exact placed i s found

namespace Reading
variable {ρ : Type}

def handOver (r : Reading) (aliasName : String) (records : RecordMapping ρ) (k cell : Nat)
    (record : ρ) : Except Error ρ :=
  match r.row.isNull cell with
  | .error cause => .error (r.executionError cause)
  | .ok true => .ok record
  | .ok false =>
    match r.row.value cell with
    | .error cause => .error (r.executionError cause)
    | .ok v =>
      match records.set k v record with
      | .error cause =>
        let property := (records.mapping.columns[k]?.map Column.property).getD ""
        .error (.materialization aliasName property cause)
      | .ok record => .ok record

/-- Reads the record of a store whose columns have the given cells: the columns that
    decide on presence are asked first, and then each cell goes to the setter of its
    column. -/
def readCells (r : Reading) (m : Member) (cell : Column → Nat) (records : RecordMapping ρ) :
    Except Error (Option ρ) :=
  let deciding := m.mapping.columns.filter fun c => c.identity || !m.mapping.hasIdentity
  match r.row.anyPresent (deciding.map cell) with
  | .error cause => .error (r.executionError cause)
  | .ok false => .ok none
  | .ok true =>
    let filled := m.mapping.columns.zipIdx.foldlM
      (fun record part => r.handOver m.aliasName records part.2 (cell part.1) record) records.blank
    filled.map some

theorem fill_eq_foldlM (r : Reading) (aliasName : String) (records : RecordMapping ρ)
    (cell : Column → Nat) (cs : List Column) (k : Nat) (record : ρ) :
    r.fill aliasName records k (cs.map cell) record =
      (cs.zipIdx k).foldlM
        (fun record part => r.handOver aliasName records part.2 (cell part.1) record) record := by
  -- the setter is found by position, so the count goes up with every column
  induction cs generalizing k record with
  | nil => rfl
  | cons c cs ih =>
    rw [List.map_cons, List.zipIdx_cons, List.foldlM_cons, fill, handOver]
    cases r.row.isNull (cell c) with
    | error cause => rfl
    | ok isNull =>
      cases isNull with
      | true => exact ih (k + 1) record
      | false =>
        cases r.row.value (cell c) with
        | error cause => rfl
        | ok v =>
          dsimp only
          cases records.set k v record with
          | error cause => rfl
          | ok record => exact ih (k + 1) record

end Reading

theorem presence_cells (m : Mapping) (cell : Column → Nat) :
    (presencePositions m).filterMap (fun p => (m.columns.map cell)[p]?) =
      (m.columns.filter fun c => c.identity || !m.hasIdentity).map cell := by
  -- stated with other columns before these, since positions count them
  have general (before cs : List Column) (decides : Column → Bool) :
      (((cs.zipIdx before.length).filter fun p => decides p.1).map (·.2)).filterMap
          (fun p => ((before ++ cs).map cell)[p]?) = (cs.filter decides).map cell := by
    induction cs generalizing before with
    | nil => rfl
    | cons c cs ih =>
      have rest := ih (before ++ [c])
      rw [List.length_append, List.length_singleton, List.append_assoc, List.singleton_append] at rest
      rw [List.zipIdx_cons, List.filter_cons, List.filter_cons]
      cases decides c with
      | false => exact rest
      | true =>
        have here : ((before ++ c :: cs).map cell)[before.length]? = some (cell c) := by simp
        simp only [if_true, List.map_cons, List.filterMap_cons, here]
        rw [rest]
  exact general [] m.columns fun c => c.identity || !m.hasIdentity

theorem ordinals_of_placed {d : Dialect} {items : List Item} {s : Seat} {store : StoreLayout}
    (distinct : items.Nodup) (placed : Placed d items s store) :
    store.ordinals = s.member.mapping.columns.map fun c => items.idxOf (s.item d c) := by
  obtain ⟨start, ordinals, own⟩ := placed.ordinals
  rw [ordinals]
  refine List.ext_getElem? fun k => ?_
  -- equal at every position: beyond the columns both lists have ended
  cases column : s.member.mapping.columns[k]? with
  | none =>
    have beyond := List.getElem?_eq_none_iff.mp column
    rw [List.getElem?_map, column, List.getElem?_eq_none (by simpa using beyond)]
    rfl
  | some c =>
    obtain ⟨inside, -⟩ := List.getElem?_eq_some_iff.mp column
    obtain ⟨within, value⟩ := List.getElem?_eq_some_iff.mp (own k c column)
    have found := distinct.idxOf_getElem (start + k) within
    rw [value] at found
    rw [List.getElem?_map, column, List.getElem?_range' inside, Option.map_some, found]
    simp

theorem read_of_placed {d : Dialect} {items : List Item} {s : Seat} {store : StoreLayout}
    (distinct : items.Nodup) (placed : Placed d items s store) (r : Reading) {i : Nat}
    (found : r.layout.stores[i]? = some store) {ρ : Type} (records : RecordMapping ρ) :
    r.read i records = r.readCells s.member (fun c => items.idxOf (s.item d c)) records := by
  unfold Reading.read
  rw [found]
  dsimp only
  rw [placed.aliasName, placed.presence, ordinals_of_placed distinct placed, presence_cells,
    Reading.fill_eq_foldlM]
  rfl

theorem compile_select_prefixes {members : List Member} {p : Plan}
    (accepted : Plan.ofMembers members = .ok p) (d : Dialect) (orders : List SortOrder)
    (q : Query) : (compile d members (.select orders) q).query.prefixes = prefixes d p := by
  rw [compile, accepted]
  rfl

/-- The header a select produces is one the layout resolves, and each store then reads its
    record from exactly the items written for its seat. -/
theorem select_layout {members : List Member} {p : Plan}
    (accepted : Plan.ofMembers members = .ok p) (d : Dialect) (orders : List SortOrder)
    (q : Query) :
    let query := (compile d members (.select orders) q).query
    let header := (p.items d).map Item.name
    selectList query.tokens = some (p.items d) ∧
      query.prefixes.length = members.length ∧
      header.Nodup ∧
      ∃ layout, Layout.resolve header members query.prefixes = .ok layout ∧
        layout.stores.length = members.length ∧
        ∀ (i : Nat) (s : Seat), p.seats[i]? = some s →
          ∃ store, layout.stores[i]? = some store ∧ Placed d (p.items d) s store ∧
            ∀ (row : Row) (ρ : Type) (records : RecordMapping ρ),
              Reading.read ⟨row, layout, query⟩ i records =
                Reading.readCells ⟨row, layout, query⟩ s.member
                  (fun c => (p.items d).idxOf (s.item d c)) records := by
  intro query header
  have nodup : header.Nodup := items_names_nodup accepted d
  have distinct : (p.items d).Nodup :=
    List.Pairwise.of_map Item.name (fun x y differ same => differ (congrArg Item.name same)) nodup
  obtain ⟨sameTokens, -, -⟩ := compile_accepted accepted d (.select orders) q
  obtain ⟨rfl, enough, -, -⟩ := Plan.ofMembers_ok accepted
  have prefixes : query.prefixes = Sql.prefixes d ⟨members⟩ :=
    compile_select_prefixes accepted d orders q
  have some_seat : Plan.seats ⟨members⟩ ≠ [] := by
    intro empty
    have length := Plan.length_seats ⟨members⟩
    rw [empty, List.length_nil] at length
    dsimp only at length
    omega
  obtain ⟨stores, resolved, length, placed⟩ :=
    storeLayouts_placed nodup 0 members [] (by rw [List.nil_append]; rfl)
  refine ⟨?_, ?_, nodup, ⟨stores⟩, ?_, length, ?_⟩
  · rw [show query.tokens = _ from sameTokens]
    exact selectList_selectStatement some_seat d orders
  · rw [prefixes, Sql.prefixes, List.length_map, Plan.length_seats]
  · have stored : storeLayouts header members (Sql.prefixes d ⟨members⟩) = .ok stores := resolved
    rw [prefixes, Layout.resolve, stored]
    rfl
  · intro i s found
    obtain ⟨store, inside, place⟩ := placed i s found
    exact ⟨store, inside, place, fun row ρ records => read_of_placed distinct place _ inside records⟩

theorem select_layout_sample :
    let query := (compile .postgres [Sample.authors, Sample.books] (.select []) default).query
    let header := ["A_id", "A_name", "B_id", "B_author_id", "B_place"]
    selectList query.tokens = some (Sample.plan.items .postgres) ∧
      (Sample.plan.items .postgres).map Item.name = header ∧
      ∃ layout, Layout.resolve header [Sample.authors, Sample.books] query.prefixes = .ok layout ∧
        layout.stores.map StoreLayout.ordinals = [[0, 1], [2, 3, 4]] := by
  intro query header
  have names : (Sample.plan.items .postgres).map Item.name = header := by decide
  obtain ⟨list, -, -, layout, resolved, -, -⟩ :=
    select_layout Sample.accepted .postgres [] default
  rw [names] at resolved
  refine ⟨list, names, layout, resolved, ?_⟩
  have expected : Layout.resolve header [Sample.authors, Sample.books] query.prefixes =
      .ok ⟨[⟨"authors", [0, 1], [0]⟩, ⟨"books", [2, 3, 4], [0]⟩]⟩ := by rfl
  have same := Except.ok.inj (resolved.symm.trans expected)
  rw [same]
  rfl

end Joinery
