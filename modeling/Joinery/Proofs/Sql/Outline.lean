import Joinery.Proofs.Sql.Nesting
import Joinery.Proofs.Sql.SelectList

/-!
The grammar of statements, spaces aside: what is selected, the tables with their letters,
the kinds of the joins, and conditions in parentheses behind each ON and behind WHERE. An
outline is written as one sentence of it, and a sentence is read back as its outline.
-/
namespace Joinery.Sql
open Reader

inductive Selection where
  | columns (items : List Item)
  | count
deriving DecidableEq, Repr

structure Source where
  table : String
  letter : String
deriving DecidableEq, Repr

/-- A table that is joined to those before it. The conditions behind its ON stand in
    parentheses each, with a connective before each but the first. -/
structure Attached where
  kind : JoinType
  source : Source
  first : List Token
  others : List (Connective × List Token)
deriving DecidableEq, Repr

inductive Sorting where
  | column (letter name : String) (ascending : Bool)
  | computed (sql : String)
deriving DecidableEq, Repr

structure Outline where
  selection : Selection
  first : Source
  joins : List Attached
  filters : List (List Token)
  orders : List Sorting
deriving DecidableEq, Repr

def counted : List Token := [.keyword .count, Token.lparen, Token.star, Token.rparen]

def Selection.write (d : Dialect) : Selection → List Token
  | .columns items => [Token.comma].intercalate (items.map (Item.write d))
  | .count => counted

def Source.write (s : Source) : List Token := [.ident s.table, .ident s.letter]

def writeKind : JoinType → List Token
  | .inner => [.keyword .inner, Token.join]
  | .leftOuter => [.keyword .left, .keyword .outer, Token.join]
  | .rightOuter => [.keyword .right, .keyword .outer, Token.join]
  | .fullOuter => [.fullOuterJoin]

def writeAlso (other : Connective × List Token) : List Token := word other.1 :: enclose other.2

def Attached.write (a : Attached) : List Token :=
  writeKind a.kind ++ (a.source.write ++ Token.on :: (enclose a.first ++ a.others.flatMap writeAlso))

def Sorting.write : Sorting → List Token
  | .column letter name ascending =>
    Token.qualified letter name ++ [.keyword (if ascending then .asc else .desc)]
  | .computed sql => [.raw sql]

def writeSeries {α : Type} (lead sep : Token) (write : α → List Token) : List α → List Token
  | [] => []
  | x :: xs => lead :: (write x ++ xs.flatMap fun y => sep :: write y)

def writeFilters : List (List Token) → List Token := writeSeries Token.filter Token.and enclose

def writeOrders : List Sorting → List Token := writeSeries Token.orderBy Token.comma Sorting.write

def Outline.write (d : Dialect) (o : Outline) : List Token :=
  Token.select :: (o.selection.write d ++ Token.source :: (o.first.write ++
    (o.joins.flatMap Attached.write ++ (writeFilters o.filters ++ writeOrders o.orders))))

namespace Reader

def enclosed : Nat → Reader (List Token)
  | _, [] => none
  | depth, t :: rest =>
    match t.level depth with
    | none => some ([], rest)
    | some depth => (enclosed depth rest).map fun r => (t :: r.1, r.2)

def group : Reader (List Token)
  | .symbol .lparen :: rest => enclosed 0 rest
  | _ => none

def preceded {α : Type} (lead : Token) (item : Reader α) : Reader α
  | t :: rest => if t = lead then item rest else none
  | [] => none

def many {α : Type} (item : Reader α) : Nat → List Token → List α × List Token
  | 0, ts => ([], ts)
  | fuel + 1, ts =>
    match item ts with
    | none => ([], ts)
    | some (x, rest) => (x :: (many item fuel rest).1, (many item fuel rest).2)

def series {α : Type} (lead sep : Token) (item : Reader α) : Reader (List α)
  | [] => some ([], [])
  | t :: rest =>
    if t = lead then
      (item rest).map fun r =>
        let others := many (preceded sep item) r.2.length r.2
        (r.1 :: others.1, others.2)
    else some ([], t :: rest)

def source : Reader Source
  | .ident table :: .ident letter :: rest => some (⟨table, letter⟩, rest)
  | _ => none

def kind : Reader JoinType
  | .keyword .inner :: .keyword .join :: rest => some (.inner, rest)
  | .keyword .left :: .keyword .outer :: .keyword .join :: rest => some (.leftOuter, rest)
  | .keyword .right :: .keyword .outer :: .keyword .join :: rest => some (.rightOuter, rest)
  | .fullOuterJoin :: rest => some (.fullOuter, rest)
  | _ => none

def also : Reader (Connective × List Token)
  | [] => none
  | t :: rest => (connective? t).bind fun k => (group rest).map fun r => ((k, r.1), r.2)

def attached : Reader Attached := fun ts => do
  let (kind, ts) ← kind ts
  let (source, ts) ← source ts
  let ts ← after [Token.on] ts
  let (first, ts) ← group ts
  let others := many also ts.length ts
  return (⟨kind, source, first, others.1⟩, others.2)

def sorting : Reader Sorting
  | .ident letter :: .symbol .dot :: .ident name :: .keyword .asc :: rest =>
    some (.column letter name true, rest)
  | .ident letter :: .symbol .dot :: .ident name :: .keyword .desc :: rest =>
    some (.column letter name false, rest)
  | .raw sql :: rest => some (.computed sql, rest)
  | _ => none

end Reader

def Selection.ofWords (ts : List Token) : Option Selection :=
  if ts = counted then some .count
  else ((ts.splitOn Token.comma).mapM Item.ofWords).map .columns

def Outline.ofWords : List Token → Option Outline
  | .keyword .select :: ts => do
    let selection ← Selection.ofWords (ts.takeWhile (· ≠ Token.source))
    let ts ← after [Token.source] (ts.dropWhile (· ≠ Token.source))
    let (first, ts) ← source ts
    let joins := many attached ts.length ts
    let (filters, ts) ← series Token.filter Token.and group joins.2
    let (orders, ts) ← series Token.orderBy Token.comma sorting ts
    if ts = [] then some ⟨selection, first, joins.1, filters, orders⟩ else none
  | _ => none

def Outline.read (ts : List Token) : Option Outline := Outline.ofWords (words ts)

def Attached.groups (a : Attached) : List (List Token) := a.first :: a.others.map Prod.snd

def Outline.connectives (o : Outline) : List Connective :=
  o.joins.flatMap (fun a => a.others.map Prod.fst) ++ o.filters.tail.map fun _ => .and

structure Grouped (d : Dialect) (g : List Token) : Prop where
  balanced : Balanced g
  condition : ∃ c, Condition.ofWords d g = some c

structure Outline.Formed (d : Dialect) (o : Outline) : Prop where
  some_item : o.selection ≠ .columns []
  joined : ∀ a ∈ o.joins, ∀ g ∈ a.groups, Grouped d g
  filtering : ∀ g ∈ o.filters, Grouped d g

section Reading
variable {α : Type} {item : Reader α} {write : α → List Token} {xs : List α} {rest : List Token}

theorem enclosed_reads {ts : List Token} {depth depth' : Nat} (found : level depth ts = some depth')
    (us : List Token) :
    enclosed depth (ts ++ us) = (enclosed depth' us).map fun r => (ts ++ r.1, r.2) := by
  induction ts generalizing depth with
  | nil =>
    cases found
    simp
  | cons t ts ih =>
    rw [level_cons] at found
    obtain ⟨next, first, others⟩ := Option.bind_eq_some_iff.mp found
    rw [List.cons_append, enclosed, first]
    dsimp only
    rw [ih others, Option.map_map]
    rfl

theorem group_reads {g : List Token} (balanced : Balanced g) (rest : List Token) :
    group (enclose g ++ rest) = some (g, rest) := by
  have inside : enclose g ++ rest = .symbol .lparen :: (g ++ (Token.rparen :: rest)) := by
    simp [enclose, Token.lparen]
  have closed : enclosed 0 (Token.rparen :: rest) = some ([], rest) := rfl
  rw [inside, group, enclosed_reads balanced, closed, Option.map_some, List.append_nil]

theorem many_reads (Next : List Token → Prop)
    (reads : ∀ x ∈ xs, ∀ us, Next us → item (write x ++ us) = some (x, us))
    (goesOn : ∀ x ∈ xs, ∀ us, Next (write x ++ us)) (some_word : ∀ x ∈ xs, write x ≠ [])
    (next : Next rest) (stop : item rest = none) :
    many item (xs.flatMap write ++ rest).length (xs.flatMap write ++ rest) = (xs, rest) := by
  -- every item uses up one unit of fuel and at least one word
  suffices enough : ∀ fuel, (xs.flatMap write).length ≤ fuel →
      many item fuel (xs.flatMap write ++ rest) = (xs, rest) by
    apply enough
    rw [List.length_append]
    exact Nat.le_add_right _ _
  induction xs with
  | nil =>
    intro fuel _
    cases fuel with
    | zero => rfl
    | succ fuel => rw [List.flatMap_nil, List.nil_append, many, stop]
  | cons x xs ih =>
    intro fuel room
    have own := List.length_pos_iff.mpr (some_word x List.mem_cons_self)
    rw [List.flatMap_cons, List.length_append] at room
    obtain ⟨fuel, rfl⟩ : ∃ k, fuel = k + 1 := Nat.exists_eq_succ_of_ne_zero (by omega)
    have later : Next (xs.flatMap write ++ rest) := by
      cases xs with
      | nil => exact next
      | cons y ys =>
        rw [List.flatMap_cons, List.append_assoc]
        exact goesOn y (by simp) _
    have others := ih (fun y inside => reads y (List.mem_cons_of_mem x inside))
      (fun y inside => goesOn y (List.mem_cons_of_mem x inside))
      (fun y inside => some_word y (List.mem_cons_of_mem x inside)) fuel (by omega)
    rw [List.flatMap_cons, List.append_assoc, many, reads x List.mem_cons_self _ later]
    dsimp only
    rw [others]

theorem preceded_none {lead : Token} (other : rest.head? ≠ some lead) :
    preceded lead item rest = none := by
  cases rest with
  | nil => rfl
  | cons t rest => exact if_neg fun same => other (congrArg some same)

theorem series_reads {lead sep : Token}
    (reads : ∀ x ∈ xs, ∀ us, item (write x ++ us) = some (x, us))
    (unled : rest.head? ≠ some lead) (stop : rest.head? ≠ some sep) :
    series lead sep item (writeSeries lead sep write xs ++ rest) = some (xs, rest) := by
  cases xs with
  | nil =>
    rw [writeSeries, List.nil_append]
    cases rest with
    | nil => rfl
    | cons t rest => exact if_neg fun same => unled (congrArg some same)
  | cons x xs =>
    -- behind the first every item has a separator before it
    have each : ∀ y ∈ xs, ∀ us, True →
        preceded sep item ((sep :: write y) ++ us) = some (y, us) := by
      intro y inside us _
      rw [List.cons_append, preceded, if_pos rfl]
      exact reads y (List.mem_cons_of_mem x inside) us
    have others := many_reads (fun _ => True) each (fun _ _ _ => trivial)
      (fun y _ => List.cons_ne_nil sep (write y)) trivial (preceded_none stop)
    rw [writeSeries, List.cons_append, List.append_assoc, series, if_pos rfl,
      reads x List.mem_cons_self, Option.map_some]
    dsimp only
    rw [others]

theorem source_reads (s : Source) (rest : List Token) : source (s.write ++ rest) = some (s, rest) := rfl

theorem kind_reads (k : JoinType) (rest : List Token) : kind (writeKind k ++ rest) = some (k, rest) := by
  cases k <;> rfl

theorem sorting_reads (s : Sorting) (rest : List Token) :
    sorting (s.write ++ rest) = some (s, rest) := by
  cases s with
  | column letter name ascending => cases ascending <;> rfl
  | computed sql => rfl

theorem also_reads {other : Connective × List Token} (balanced : Balanced other.2)
    (rest : List Token) : also (writeAlso other ++ rest) = some (other, rest) := by
  obtain ⟨k, g⟩ := other
  have known : connective? (word k) = some k := by cases k <;> rfl
  rw [writeAlso, List.cons_append, also, known, Option.bind_some, group_reads balanced]
  rfl

def Apart (rest : List Token) : Prop := also rest = none

theorem attached_reads {a : Attached} (balanced : ∀ g ∈ a.groups, Balanced g)
    (apart : Apart rest) : attached (a.write ++ rest) = some (a, rest) := by
  obtain ⟨k, table, first, others⟩ := a
  have also_balanced : ∀ other ∈ others, Balanced other.2 := by
    intro other inside
    exact balanced _ (List.mem_cons_of_mem first (List.mem_map_of_mem inside))
  -- further conditions go on until no connective follows
  have read := many_reads (fun _ => True)
    (fun other inside us _ => also_reads (also_balanced other inside) us) (fun _ _ _ => trivial)
    (fun other _ => List.cons_ne_nil _ _) trivial apart
  have own := balanced first List.mem_cons_self
  unfold attached Attached.write
  simp only [List.append_assoc, List.cons_append]
  rw [kind_reads]
  simp only [Option.bind_eq_bind, Option.bind_some]
  rw [source_reads]
  simp only [Option.bind_some, after, if_true]
  rw [group_reads own]
  simp only [Option.bind_some]
  rw [read]
  rfl

end Reading

theorem columns_words (d : Dialect) (items : List Item) :
    ((Selection.columns items).write d).all listWord = true := by
  apply all_intercalate rfl
  intro item inside
  obtain ⟨⟨letter, column, given⟩, -, rfl⟩ := List.mem_map.mp inside
  cases given <;> cases d <;> rfl

theorem selection_reads {d : Dialect} {s : Selection} (some_item : s ≠ .columns []) :
    Selection.ofWords (s.write d) = some s := by
  cases s with
  | count => rfl
  | columns items =>
    have columns := columns_words d items
    have other : (Selection.columns items).write d ≠ counted := by
      intro same
      rw [same] at columns
      cases columns
    have some_column : items ≠ [] := fun none => some_item (congrArg Selection.columns none)
    rw [Selection.ofWords, if_neg other, Selection.write, split_items some_column]
    rfl

theorem selection_ends (d : Dialect) (s : Selection) :
    ∀ t ∈ s.write d, decide (t ≠ Token.source) = true := by
  cases s with
  | count =>
    change ∀ t ∈ counted, decide (t ≠ Token.source) = true
    decide
  | columns items =>
    intro t inside
    have word := List.all_eq_true.mp (columns_words d items) t inside
    apply decide_eq_true
    rintro rfl
    cases word

theorem takeWhile_selection (d : Dialect) (s : Selection) (rest : List Token) :
    (s.write d ++ Token.source :: rest).takeWhile (· ≠ Token.source) = s.write d ∧
      (s.write d ++ Token.source :: rest).dropWhile (· ≠ Token.source) = Token.source :: rest := by
  have inside := selection_ends d s
  constructor
  · rw [List.takeWhile_append_of_pos inside]
    simp
  · rw [List.dropWhile_append_of_pos inside]
    simp

theorem orders_read (orders : List Sorting) :
    series Token.orderBy Token.comma sorting (writeOrders orders) = some (orders, []) := by
  have read := series_reads (fun (s : Sorting) (_ : s ∈ orders) us => sorting_reads s us)
    (nofun : ([] : List Token).head? ≠ some Token.orderBy)
    (nofun : ([] : List Token).head? ≠ some Token.comma)
  rwa [List.append_nil] at read

theorem filters_read {filters : List (List Token)} (balanced : ∀ g ∈ filters, Balanced g)
    (orders : List Sorting) :
    series Token.filter Token.and group (writeFilters filters ++ writeOrders orders) =
      some (filters, writeOrders orders) := by
  have other (t : Token) (apart : t ≠ Token.orderBy) : (writeOrders orders).head? ≠ some t := by
    cases orders with
    | nil => exact nofun
    | cons s orders => exact fun same => apart (Option.some.inj same).symm
  exact series_reads (fun g inside us => group_reads (balanced g inside) us)
    (other _ (by decide)) (other _ (by decide))

theorem joins_read_back {joins : List Attached} (balanced : ∀ a ∈ joins, ∀ g ∈ a.groups, Balanced g)
    (filters : List (List Token)) (orders : List Sorting) :
    let rest := writeFilters filters ++ writeOrders orders
    many attached (joins.flatMap Attached.write ++ rest).length
      (joins.flatMap Attached.write ++ rest) = (joins, rest) := by
  intro rest
  have goesOn (a : Attached) (us : List Token) : Apart (a.write ++ us) := by
    obtain ⟨k, source, first, others⟩ := a
    cases k <;> rfl
  have some_word (a : Attached) : a.write ≠ [] := by
    obtain ⟨k, source, first, others⟩ := a
    cases k <;> exact List.cons_ne_nil _ _
  have ends : Apart rest ∧ attached rest = none := by
    cases filters with
    | cons g filters => exact ⟨rfl, rfl⟩
    | nil => cases orders <;> exact ⟨rfl, rfl⟩
  exact many_reads Apart (fun a inside us apart => attached_reads (balanced a inside) apart)
    (fun a _ us => goesOn a us) (fun a _ => some_word a) ends.1 ends.2

theorem ofWords_sentence {d : Dialect} {o : Outline} (formed : o.Formed d) :
    Outline.ofWords (o.write d) = some o := by
  obtain ⟨selection, first, joins, filters, orders⟩ := o
  have joined : ∀ a ∈ joins, ∀ g ∈ a.groups, Balanced g :=
    fun a inside g own => (formed.joined a inside g own).balanced
  have filtering : ∀ g ∈ filters, Balanced g := fun g inside => (formed.filtering g inside).balanced
  obtain ⟨upTo, behind⟩ := takeWhile_selection d selection (first.write ++
    (joins.flatMap Attached.write ++ (writeFilters filters ++ writeOrders orders)))
  change (do
    let selection ← Selection.ofWords (List.takeWhile _ _)
    _) = _
  rw [upTo, behind, selection_reads formed.some_item]
  simp only [Option.bind_eq_bind, Option.bind_some, after, if_true]
  rw [source_reads]
  simp only [Option.bind_some]
  rw [joins_read_back joined, filters_read filtering]
  simp only [Option.bind_some]
  rw [orders_read]
  rfl

theorem shows_selection (d : Dialect) (s : Selection) : Shows [] (s.write d) := by
  cases s with
  | count => exact ⟨rfl, rfl⟩
  | columns items =>
    refine shows_silent (all_mono (fun t word => ?_) (columns_words d items))
    cases t with
    | symbol s => cases s <;> first | rfl | cases word
    | keyword k => cases k <;> first | rfl | cases word
    | fullOuterJoin | int | string | param | function | raw => cases word
    | ident => rfl

theorem shows_also {other : Connective × List Token} (balanced : Balanced other.2) :
    Shows [other.1] (writeAlso other) := by
  obtain ⟨k, g⟩ := other
  have own : Shows [k] [word k] := by cases k <;> exact ⟨rfl, rfl⟩
  exact shows_append own (shows_enclose balanced)

theorem shows_attached {a : Attached} (balanced : ∀ g ∈ a.groups, Balanced g) :
    Shows (a.others.map Prod.fst) a.write := by
  have lead : Shows [] (writeKind a.kind ++ (a.source.write ++ [Token.on])) := by
    cases a.kind <;> exact shows_silent rfl
  have first := shows_enclose (balanced a.first List.mem_cons_self)
  have others : Shows (a.others.flatMap fun other => [other.1]) (a.others.flatMap writeAlso) := by
    apply shows_flatMap
    intro other inside
    exact shows_also (balanced other.2 (List.mem_cons_of_mem a.first (List.mem_map_of_mem inside)))
  have connectives : a.others.flatMap (fun other => [other.1]) = a.others.map Prod.fst :=
    List.map_eq_flatMap.symm
  have whole := shows_append lead (shows_append first others)
  rw [connectives] at whole
  simpa [Attached.write] using whole

theorem shows_series {α : Type} {lead sep : Token} {write : α → List Token} {xs : List α}
    {ks : List Connective} (opening : Shows [] [lead]) (between : Shows ks [sep])
    (each : ∀ x ∈ xs, Shows [] (write x)) :
    Shows (xs.tail.flatMap fun _ => ks) (writeSeries lead sep write xs) := by
  cases xs with
  | nil => exact ⟨rfl, rfl⟩
  | cons x xs =>
    have own := each x List.mem_cons_self
    have others : Shows (xs.flatMap fun _ => ks) (xs.flatMap fun y => sep :: write y) := by
      apply shows_flatMap
      intro y inside
      have part := shows_append between (each y (List.mem_cons_of_mem x inside))
      rwa [List.append_nil] at part
    exact shows_append opening (shows_append own others)

/-- A sentence is balanced, and outside of all parentheses it has only the connectives
    between its conditions. -/
theorem shows_sentence {d : Dialect} {o : Outline} (formed : o.Formed d) :
    Shows o.connectives (o.write d) := by
  obtain ⟨selection, first, joins, filters, orders⟩ := o
  have joined : Shows (joins.flatMap fun a => a.others.map Prod.fst)
      (joins.flatMap Attached.write) := by
    apply shows_flatMap
    intro a inside
    exact shows_attached fun g own => (formed.joined a inside g own).balanced
  have filtering : Shows (filters.tail.map fun _ => .and) (writeFilters filters) := by
    have opening : Shows [] [Token.filter] := ⟨rfl, rfl⟩
    have between : Shows [.and] [Token.and] := ⟨rfl, rfl⟩
    have series := shows_series opening between fun g inside =>
      shows_enclose (formed.filtering g inside).balanced
    rwa [← List.map_eq_flatMap] at series
  have sorted : Shows [] (writeOrders orders) := by
    have opening : Shows [] [Token.orderBy] := ⟨rfl, rfl⟩
    have between : Shows [] [Token.comma] := ⟨rfl, rfl⟩
    have each : ∀ s ∈ orders, Shows [] s.write := by
      intro s _
      cases s with
      | column letter name ascending => cases ascending <;> exact ⟨rfl, rfl⟩
      | computed sql => exact ⟨rfl, rfl⟩
    have series := shows_series opening between each
    rwa [List.flatMap_eq_nil_iff.mpr fun _ _ => rfl] at series
  have select : Shows [] [Token.select] := ⟨rfl, rfl⟩
  have sources : Shows [] (Token.source :: first.write) := shows_silent rfl
  have lead := shows_append select (shows_append (shows_selection d selection) sources)
  have whole := shows_append lead (shows_append joined (shows_append filtering sorted))
  simpa [Outline.write, Outline.connectives] using whole

end Joinery.Sql
