import Joinery.Proofs.Sql.Emission
import Joinery.Proofs.Sql.Plan
import Joinery.Proofs.Sql.Reader

/-!
The list of selected columns, read back from a statement. There is one item for each
mapped column, stores in their order and columns in theirs, and no two items share a
name, whatever the columns are called.
-/
namespace Joinery.Sql
open Emission

structure Item where
  letter : String
  column : String
  given : Option String
deriving DecidableEq, Repr

def Item.name (i : Item) : String := i.given.getD (i.letter ++ "." ++ i.column)

def Item.write (d : Dialect) (i : Item) : List Token :=
  Token.qualified i.letter i.column ++
    match i.given with
    | none => []
    | some name => (if d.marksAliases then [Token.named] else []) ++ [.ident name]

def Item.ofWords : List Token → Option Item
  | [.ident letter, .symbol .dot, .ident column] => some ⟨letter, column, none⟩
  | [.ident letter, .symbol .dot, .ident column, .ident given] => some ⟨letter, column, given⟩
  | [.ident letter, .symbol .dot, .ident column, .keyword .named, .ident given] =>
    some ⟨letter, column, given⟩
  | _ => none

def selectList (ts : List Token) : Option (List Item) :=
  match words ts with
  | .keyword .select :: rest =>
    ((rest.takeWhile fun t => t ≠ Token.source).splitOn Token.comma).mapM Item.ofWords
  | _ => none

def Seat.item (d : Dialect) (s : Seat) (c : Column) : Item :=
  ⟨s.letter, c.name, if d.aliasesColumns then some (s.letter ++ "_" ++ c.name) else none⟩

def Seat.items (d : Dialect) (s : Seat) : List Item := s.member.mapping.columns.map (s.item d)

/-- One item for each mapped column, in store order and then in mapping order. -/
def Plan.items (d : Dialect) (p : Plan) : List Item := p.seats.flatMap (Seat.items d)

theorem name_item (d : Dialect) (s : Seat) (c : Column) :
    (s.item d c).name = columnPrefix d s ++ c.name := by
  unfold Item.name Seat.item columnPrefix
  cases d.aliasesColumns <;> rfl

theorem ofWords_write (d : Dialect) (i : Item) : Item.ofWords (i.write d) = some i := by
  obtain ⟨letter, column, given⟩ := i
  cases given <;> cases d <;> rfl

theorem comma_not_in_write (d : Dialect) (i : Item) : Token.comma ∉ i.write d := by
  obtain ⟨letter, column, given⟩ := i
  cases given <;> cases d <;>
    simp [Item.write, Token.qualified, Dialect.marksAliases, Token.comma, Token.dot, Token.named]

theorem mapM_ofWords_write (d : Dialect) (items : List Item) :
    (items.map (Item.write d)).mapM Item.ofWords = some items := by
  induction items with
  | nil => rfl
  | cons i items ih =>
    rw [List.map_cons, List.mapM_cons, ofWords_write, ih]
    rfl

theorem split_items {items : List Item} (some_item : items ≠ []) (d : Dialect) :
    (([Token.comma].intercalate (items.map (Item.write d))).splitOn Token.comma).mapM Item.ofWords =
      some items := by
  have separate : ∀ item ∈ items.map (Item.write d), Token.comma ∉ item := by
    intro item member
    obtain ⟨i, -, rfl⟩ := List.mem_map.mp member
    exact comma_not_in_write d i
  have some_part : items.map (Item.write d) ≠ [] :=
    fun empty => some_item (List.map_eq_nil_iff.mp empty)
  rw [List.splitOn_intercalate _ separate some_part]
  exact mapM_ofWords_write d items

theorem words_intercalate (sep : List Token) (xs : List (List Token)) :
    words (sep.intercalate xs) = (words sep).intercalate (xs.map words) := by
  induction xs with
  | nil => rfl
  | cons x rest ih =>
    cases rest with
    | nil => simp
    | cons y rest =>
      rw [List.intercalate_cons_cons, words_append, words_append, ih]
      exact List.intercalate_cons_cons.symm

theorem words_selectItem (d : Dialect) (s : Seat) (c : Column) :
    words (selectItem d s c) = (s.item d c).write d := by
  cases d <;> rfl

theorem words_columnList (d : Dialect) (p : Plan) :
    words (columnList d p) = [Token.comma].intercalate ((p.items d).map (Item.write d)) := by
  have items : (selectItems d p).map words = (p.items d).map (Item.write d) := by
    rw [selectItems, Plan.items, List.map_flatMap, List.map_flatMap]
    congr 1
    funext s
    rw [Seat.items, List.map_map, List.map_map]
    exact List.map_congr_left fun c _ => words_selectItem d s c
  rw [columnList, words_intercalate, items]
  rfl

theorem items_ne_nil {p : Plan} (some_seat : p.seats ≠ []) (d : Dialect) : p.items d ≠ [] := by
  obtain ⟨s, rest, seats⟩ := List.exists_cons_of_ne_nil some_seat
  intro empty
  have none : s.items d = [] := by
    apply List.flatMap_eq_nil_iff.mp empty s
    rw [seats]
    exact List.mem_cons_self
  exact s.member.mapping.columns_ne (List.map_eq_nil_iff.mp none)

theorem split_columnList {p : Plan} (some_seat : p.seats ≠ []) (d : Dialect) :
    ((words (columnList d p)).splitOn Token.comma).mapM Item.ofWords = some (p.items d) := by
  rw [words_columnList]
  exact split_items (items_ne_nil some_seat d) d

theorem tokens_of_append (a b : Emission) (n : Nat) :
    ∃ us, ((a ++ b) n).tokens = (a n).tokens ++ us := by
  rw [append_apply]
  split
  · exact ⟨[], (List.append_nil _).symm⟩
  · exact ⟨_, rfl⟩

theorem body_tokens {p : Plan} (some_seat : p.seats ≠ []) (d : Dialect) (n : Nat) :
    ∃ us, (body d p n).tokens = Token.source :: us := by
  obtain ⟨first, rest, seats⟩ := List.exists_cons_of_ne_nil some_seat
  obtain ⟨us, split⟩ := tokens_of_append (fromClause d p) (whereClause d p) n
  obtain ⟨us', lead⟩ := tokens_of_append
    (tokens ([Token.source, Token.space] ++ table first)) (concat (rest.map (joinClause d p))) n
  have sources : (fromClause d p n).tokens = Token.source :: Token.space :: table first ++ us' := by
    unfold fromClause
    rw [seats]
    exact lead
  refine ⟨Token.space :: table first ++ us' ++ us, split.trans ?_⟩
  rw [sources]
  rfl

theorem selectStatement_tokens {p : Plan} (some_seat : p.seats ≠ []) (d : Dialect)
    (orders : List SortOrder) : ∃ us, (selectStatement d p orders 0).tokens =
      [Token.select, Token.space] ++ columnList d p ++ [Token.space] ++ Token.source :: us := by
  obtain ⟨us₁, outer⟩ := tokens_of_append
    (tokens ([Token.select, Token.space] ++ columnList d p ++ [Token.space]) ++ body d p)
    (orderClause p orders) 0
  obtain ⟨us₂, shared⟩ := body_tokens some_seat d 0
  refine ⟨us₂ ++ us₁, outer.trans ?_⟩
  have front : ((tokens ([Token.select, Token.space] ++ columnList d p ++ [Token.space])
      ++ body d p) 0).tokens =
      [Token.select, Token.space] ++ columnList d p ++ [Token.space] ++ (body d p 0).tokens := rfl
  rw [front, shared]
  simp only [List.append_assoc, List.cons_append]

theorem selectList_selectStatement {p : Plan} (some_seat : p.seats ≠ []) (d : Dialect)
    (orders : List SortOrder) :
    selectList (selectStatement d p orders 0).tokens = some (p.items d) := by
  obtain ⟨us, shape⟩ := selectStatement_tokens some_seat d orders
  have apart : words (selectStatement d p orders 0).tokens =
      .keyword .select :: (words (columnList d p) ++ Token.source :: words us) := by
    rw [shape]
    simp only [words_append, List.append_assoc]
    rfl
  have inside : ∀ t ∈ words (columnList d p), decide (t ≠ Token.source) = true := by
    intro t member
    have list := List.all_eq_true.mp (columnList_words d p) t (List.mem_filter.mp member).1
    apply decide_eq_true
    intro same
    rw [same] at list
    exact absurd list (by decide)
  have upTo : (words (columnList d p) ++ Token.source :: words us).takeWhile
      (fun t => t ≠ Token.source) = words (columnList d p) := by
    rw [List.takeWhile_append_of_pos inside]
    simp
  unfold selectList
  rw [apart]
  change (List.splitOn _ (List.takeWhile _ _)).mapM _ = _
  rw [upTo]
  exact split_columnList some_seat d

theorem prefix_append_injective {a b c : String} (same : a ++ b = a ++ c) : b = c := by
  have chars := congrArg String.toList same
  rw [String.toList_append, String.toList_append] at chars
  exact String.toList_inj.mp (List.append_cancel_left chars)

theorem names_differ {s s' : Seat} (apart : s.letter ≠ s'.letter) (d : Dialect) (c c' : Column) :
    (s.item d c).name ≠ (s'.item d c').name := by
  intro same
  rw [name_item, name_item] at same
  have chars := congrArg String.toList same
  simp only [columnPrefix, Seat.letter, letter, String.toList_append, String.toList_singleton,
    List.cons_append, List.nil_append, List.cons.injEq] at chars
  exact apart (congrArg String.singleton chars.1)

theorem items_names_nodup {members : List Member} {p : Plan}
    (accepted : Plan.ofMembers members = .ok p) (d : Dialect) :
    ((p.items d).map Item.name).Nodup := by
  rw [Plan.items, List.map_flatMap]
  refine List.pairwise_flatMap.mpr ⟨?_, ?_⟩
  · intro s _
    have names := s.member.mapping.names_nodup
    rw [Seat.items, List.map_map]
    apply List.pairwise_map.mpr
    apply (List.pairwise_map.mp names).imp
    intro c c' differ same
    have both : columnPrefix d s ++ c.name = columnPrefix d s ++ c'.name := by
      rw [← name_item, ← name_item]
      exact same
    exact differ (prefix_append_injective both)
  · apply (Plan.letters_apart accepted).imp
    intro s s' apart x first y second
    simp only [Seat.items, List.map_map, List.mem_map, Function.comp_apply] at first second
    obtain ⟨c, -, rfl⟩ := first
    obtain ⟨c', -, rfl⟩ := second
    exact names_differ apart d c c'

end Joinery.Sql
