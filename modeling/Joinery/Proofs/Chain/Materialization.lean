import Joinery.Proofs.Chain.Build
import Joinery.Proofs.Chain.Layout
import Joinery.Proofs.Chain.Scope

/-!
Materialization. A layout that was found for a chain has a place for every index that is
used while a row is read. Results are what the stores read, paired from the left, and
joining one more store changes neither the layout nor the result of those before it.
-/
namespace Joinery
open Sql

theorem ordinal_lt {columns : List String} {name : String} {i : Nat}
    (found : ordinal? columns name = some i) : i < columns.length := by
  have bounded (test : String → Bool) {i : Nat} (found : columns.findIdx? test = some i) :
      i < columns.length := by
    obtain ⟨inside, -⟩ := List.findIdx?_eq_some_iff_getElem.mp found
    exact inside
  unfold ordinal? at found
  rcases Option.or_eq_some_iff.mp found with exact_name | ⟨-, any_case⟩
  · exact bounded _ exact_name
  · exact bounded _ any_case

theorem locate_ok {columns : List String} {aliasName lead : String} {cs : List Column}
    {ordinals : List Nat} (located : locate columns aliasName lead cs = .ok ordinals) :
    ordinals.length = cs.length ∧ ∀ i ∈ ordinals, i < columns.length := by
  induction cs generalizing ordinals with
  | nil =>
    cases located
    exact ⟨rfl, fun i member => by cases member⟩
  | cons c rest ih =>
    obtain ⟨i, later, found, others, rfl⟩ := locate_cons.mp located
    obtain ⟨length, bounded⟩ := ih others
    refine ⟨by rw [List.length_cons, List.length_cons, length], ?_⟩
    rw [List.forall_mem_cons]
    exact ⟨ordinal_lt found, bounded⟩

theorem presence_lt (m : Mapping) : ∀ k ∈ presencePositions m, k < m.columns.length := by
  intro k member
  obtain ⟨⟨c, i⟩, inside, rfl⟩ := List.mem_map.mp member
  exact List.snd_lt_of_mem_zipIdx (List.mem_filter.mp inside).1

theorem storeLayout_ok {columns : List String} {m : Member} {lead : String} {store : StoreLayout}
    (found : StoreLayout.of columns m lead = .ok store) :
    store.ordinals.length = m.mapping.columns.length ∧
      (∀ i ∈ store.ordinals, i < columns.length) ∧
      ∀ k ∈ store.presence, k < store.ordinals.length := by
  unfold StoreLayout.of at found
  cases located : locate columns m.aliasName lead m.mapping.columns with
  | error e =>
    rw [located] at found
    cases found
  | ok ordinals =>
    rw [located] at found
    cases found
    obtain ⟨length, bounded⟩ := locate_ok located
    refine ⟨length, bounded, fun k member => ?_⟩
    dsimp only
    rw [length]
    exact presence_lt m.mapping k member

theorem storeLayouts_cons {columns : List String} {m : Member} {ms : List Member} {lead : String}
    {leads : List String} {stores : List StoreLayout} :
    storeLayouts columns (m :: ms) (lead :: leads) = .ok stores ↔
      ∃ store later, StoreLayout.of columns m lead = .ok store ∧
        storeLayouts columns ms leads = .ok later ∧ stores = store :: later := by
  rw [storeLayouts]
  cases StoreLayout.of columns m lead with
  | error e => simp
  | ok store =>
    cases storeLayouts columns ms leads with
    | error e => simp [Except.map]
    | ok later => simp [Except.map, eq_comm]

theorem storeLayouts_ok {columns : List String} {ms : List Member} {leads : List String}
    (paired : ms.length = leads.length) {stores : List StoreLayout}
    (resolved : storeLayouts columns ms leads = .ok stores) :
    List.Forall₂ (fun m store => ∃ lead, StoreLayout.of columns m lead = .ok store) ms stores := by
  induction ms generalizing leads stores with
  | nil =>
    cases resolved
    exact .nil
  | cons m rest ih =>
    cases leads with
    | nil => cases paired
    | cons lead leads =>
      obtain ⟨store, later, first, others, rfl⟩ := storeLayouts_cons.mp resolved
      exact .cons ⟨lead, first⟩ (ih (Nat.succ.inj paired) others)

theorem storeLayouts_concat {columns : List String} {ms : List Member} {leads : List String}
    (paired : ms.length = leads.length) {m : Member} {lead : String} {stores : List StoreLayout}
    (resolved : storeLayouts columns (ms ++ [m]) (leads ++ [lead]) = .ok stores) :
    ∃ before last, storeLayouts columns ms leads = .ok before ∧ stores = before ++ [last] := by
  induction ms generalizing leads stores with
  | nil =>
    obtain rfl : leads = [] := List.length_eq_zero_iff.mp paired.symm
    obtain ⟨last, none, -, nothing, rfl⟩ := storeLayouts_cons.mp resolved
    cases nothing
    exact ⟨[], last, rfl, rfl⟩
  | cons first rest ih =>
    cases leads with
    | nil => cases paired
    | cons lead' leads =>
      obtain ⟨store, later, found, others, rfl⟩ := storeLayouts_cons.mp resolved
      obtain ⟨before, last, own, rfl⟩ := ih (Nat.succ.inj paired) others
      exact ⟨store :: before, last, storeLayouts_cons.mpr ⟨store, before, found, own, rfl⟩, rfl⟩

theorem resolve_layout {columns : List String} {ms : List Member} {leads : List String}
    {layout : Layout} :
    Layout.resolve columns ms leads = .ok layout ↔ storeLayouts columns ms leads = .ok layout.stores := by
  unfold Layout.resolve
  cases storeLayouts columns ms leads with
  | error e => simp [Except.map]
  | ok stores =>
    obtain ⟨own⟩ := layout
    simp [Except.map]

namespace Chain
variable {ρ : Type} {stores : List (Store ρ)} {c e : Chain ρ} {store : Store ρ} {how : JoinCriteria}
  {d : Dialect} {orders : List SortOrder} {q : Query}

/-- No index that is used while a row is read is out of range: every store has its own
    layout, its columns are those of the layout, the positions that decide on presence are
    among them, and they stand within the header. -/
structure Fits (header : List String) (c : Chain ρ) (layout : Layout) : Prop where
  stores : layout.stores.length = c.length
  columns : ∀ (i : Nat) (l : Link ρ) (store : StoreLayout), c.links[i]? = some l →
    layout.stores[i]? = some store → store.ordinals.length = l.records.mapping.columns.length
  presence : ∀ store ∈ layout.stores, ∀ k ∈ store.presence, k < store.ordinals.length
  ordinals : ∀ store ∈ layout.stores, ∀ i ∈ store.ordinals, i < header.length

theorem prefixes_of_complete (complete : (compile d c.members (.select orders) q).failure = none) :
    (compile d c.members (.select orders) q).query.prefixes = prefixes d ⟨c.members⟩ := by
  obtain ⟨p, accepted⟩ := accepted_of_complete complete
  have own := compile_select_prefixes accepted d orders q
  obtain ⟨rfl, -⟩ := Plan.ofMembers_ok accepted
  exact own

theorem length_prefixes (d : Dialect) (c : Chain ρ) :
    c.members.length = (prefixes d ⟨c.members⟩).length := by
  rw [prefixes, List.length_map, Plan.length_seats]

theorem fits_of_resolved (mapped : ∀ l ∈ c.links, l.member.mapping = l.records.mapping)
    {header : List String} {layout : Layout}
    (resolved : Layout.resolve header c.members (prefixes d ⟨c.members⟩) = .ok layout) :
    Fits header c layout := by
  have all := storeLayouts_ok (length_prefixes d c) (resolve_layout.mp resolved)
  refine ⟨?_, ?_, ?_, ?_⟩
  · rw [← all.length_eq, length_members]
  · intro i l store link own
    have member : c.members[i]? = some l.member := by
      rw [members, List.getElem?_map, link]
      rfl
    obtain ⟨inside, value⟩ := List.getElem?_eq_some_iff.mp member
    obtain ⟨inside', value'⟩ := List.getElem?_eq_some_iff.mp own
    -- the layout of a store was found for the mapping that its records are read with
    obtain ⟨lead, found⟩ := all.get inside inside'
    rw [List.get_eq_getElem, List.get_eq_getElem, value, value'] at found
    rw [← mapped l (List.mem_of_getElem? link)]
    exact (storeLayout_ok found).1
  · intro store member
    obtain ⟨m, lead, found⟩ := exists_left all member
    exact (storeLayout_ok found).2.2
  · intro store member
    obtain ⟨m, lead, found⟩ := exists_left all member
    exact (storeLayout_ok found).2.1

theorem prefixes_join (joined : c.join store how = .ok e) :
    ∃ lead, prefixes d ⟨e.members⟩ = prefixes d ⟨c.members⟩ ++ [lead] := by
  refine ⟨columnPrefix d ⟨0 + c.members.length, Member.joined store.mapping how⟩, ?_⟩
  unfold prefixes Plan.seats
  rw [members_join joined, Plan.seatsFrom_concat, List.map_append]
  rfl

theorem resolve_join (joined : c.join store how = .ok e) {header : List String} {layout : Layout}
    (resolved : Layout.resolve header e.members (prefixes d ⟨e.members⟩) = .ok layout) :
    ∃ before last, Layout.resolve header c.members (prefixes d ⟨c.members⟩) = .ok before ∧
      layout.stores = before.stores ++ [last] := by
  obtain ⟨lead, leads⟩ := prefixes_join (d := d) joined
  rw [leads, members_join joined, resolve_layout] at resolved
  obtain ⟨before, last, own, shape⟩ := storeLayouts_concat (length_prefixes d c) resolved
  exact ⟨⟨before⟩, last, resolve_layout.mpr own, shape⟩

/-- The result of a row pairs what the stores read from the left, and its error is that of
    the first store whose read fails. -/
structure Faithful (c : Chain ρ) (r : Reading) : Prop where
  result : ∀ x, c.build r = .ok x ↔
    ∃ records, c.reads r = records.map .ok ∧ x = .nested records
  failure : ∀ err, c.build r = .error err ↔ ∃ k : Nat, (c.reads r)[k]? = some (.error err) ∧
    ∀ j < k, ∃ record, (c.reads r)[j]? = some (.ok record)

/-- The result of a longer chain has that of the shorter one on its left, and the longer
    one fails as the shorter one does. -/
structure Continues (c : Chain ρ) (r : Reading) (e : Chain ρ) (r' : Reading) : Prop where
  result : ∀ x, e.build r' = .ok x → ∃ left right, x = .pair left right ∧ c.build r = .ok left
  failure : ∀ err, c.build r = .error err → ∃ err', e.build r' = .error err' ∧ err'.bare = err.bare

theorem continues_join (joined : c.join store how = .ok e) {r r' : Reading} (sameRow : r.row = r'.row)
    (sameStores : ∀ i < c.length, r.layout.stores[i]? = r'.layout.stores[i]?) :
    Continues c r e r' := by
  have agree := build_agree (c := c) sameRow sameStores
  have step := build_join joined r'
  constructor
  · intro x built
    rw [step] at built
    -- the new store is read last, after all the others have been
    cases before : c.build r' with
    | error err =>
      rw [before] at built
      cases built
    | ok left =>
      rw [before] at built
      cases last : r'.read c.length store.records with
      | error err =>
        rw [last] at built
        cases built
      | ok right =>
        rw [last] at built
        cases built
        exact ⟨left, right, rfl, agree.of_ok before⟩
  · intro err failed
    obtain ⟨err', failed', same⟩ := agree.of_error failed
    refine ⟨err', ?_, same⟩
    rw [step, failed']
    rfl

/-- A row becomes the left-nested result of its stores' readings, or the failure of the first
    store that cannot be read; joining one more store only adds to what a row becomes. -/
theorem materialization_faithful (built : Built stores c)
    (complete : (compile d c.members (.select orders) q).failure = none) (header : List String) :
    let query := (compile d c.members (.select orders) q).query
    (∀ layout, Layout.resolve header c.members query.prefixes = .ok layout →
      Fits header c layout ∧ ∀ row, Faithful c ⟨row, layout, query⟩) ∧
    ∀ (store : Store ρ) (how : JoinCriteria) (e : Chain ρ), c.join store how = .ok e →
      ∀ (orders' : List SortOrder) (q' : Query),
        (compile d e.members (.select orders') q').failure = none →
        let query' := (compile d e.members (.select orders') q').query
        ∀ layout', Layout.resolve header e.members query'.prefixes = .ok layout' →
          ∃ layout last, Layout.resolve header c.members query.prefixes = .ok layout ∧
            layout'.stores = layout.stores ++ [last] ∧
            ∀ row, Continues c ⟨row, layout, query⟩ e ⟨row, layout', query'⟩ := by
  intro query
  have leads : query.prefixes = prefixes d ⟨c.members⟩ := prefixes_of_complete complete
  constructor
  · intro layout resolved
    rw [leads] at resolved
    exact ⟨fits_of_resolved built.mapped resolved, fun row =>
      ⟨fun x => build_ok, fun err => build_error⟩⟩
  · intro store how e joined orders' q' complete' query' layout' resolved'
    have leads' : query'.prefixes = prefixes d ⟨e.members⟩ := prefixes_of_complete complete'
    rw [leads'] at resolved'
    obtain ⟨layout, last, resolved, shape⟩ := resolve_join joined resolved'
    have fits := fits_of_resolved built.mapped resolved
    have sameStores : ∀ i < c.length, layout.stores[i]? = layout'.stores[i]? := by
      intro i less
      rw [shape, List.getElem?_append_left (by rw [fits.stores]; exact less)]
    rw [leads]
    exact ⟨layout, last, resolved, shape, fun row => continues_join joined rfl sameStores⟩

theorem materialization_faithful_sample :
    let header := ["A_id", "A_name", "B_id", "B_author_id", "B_place", "C_id", "C_author_id", "C_place"]
    let query := (compile .tsql Sample.pair.members (.select []) default).query
    let query' := (compile .tsql Sample.shelf.members (.select []) default).query
    ∃ layout layout', layout.stores.map StoreLayout.ordinals = [[0, 1], [2, 3, 4]] ∧
      layout'.stores.map StoreLayout.ordinals = [[0, 1], [2, 3, 4], [5, 6, 7]] ∧
      Fits header Sample.pair layout ∧ ∀ row, Faithful Sample.pair ⟨row, layout, query⟩ ∧
        Continues Sample.pair ⟨row, layout, query⟩ Sample.shelf ⟨row, layout', query'⟩ := by
  intro header query query'
  have complete : (compile .tsql Sample.pair.members (.select []) default).failure = none := by rfl
  have complete' : (compile .tsql Sample.shelf.members (.select []) default).failure = none := by rfl
  let wide : Layout := ⟨[⟨"authors", [0, 1], [0]⟩, ⟨"books", [2, 3, 4], [0]⟩, ⟨"others", [5, 6, 7], [0]⟩]⟩
  have resolved : Layout.resolve header Sample.shelf.members query'.prefixes = .ok wide := by rfl
  obtain ⟨faithful, stable⟩ := materialization_faithful Sample.pair_built complete header
  obtain ⟨layout, last, own, shape, continues⟩ :=
    stable _ _ _ Sample.shelf_joined [] default complete' wide resolved
  obtain ⟨fits, each⟩ := faithful layout own
  have narrow : layout.stores = wide.stores.take 2 := by
    rw [shape, List.take_append_of_le_length (by rw [fits.stores]; decide), List.take_of_length_le]
    rw [fits.stores]
    decide
  refine ⟨layout, wide, ?_, rfl, fits, fun row => ⟨each row, continues row⟩⟩
  rw [narrow]
  rfl

end Chain
end Joinery
