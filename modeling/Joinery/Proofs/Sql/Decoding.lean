import Joinery.Proofs.Sql.Clause
import Joinery.Proofs.Sql.Outline
import Joinery.Proofs.Sql.Requests
import Joinery.Proofs.Sql.Written

/-!
A complete statement is one sentence of the grammar, and its outline tells what was joined:
the stores with their letters, how each is attached, which conditions filter, and the
orders. Whose filter a condition is can be told from its columns, if it has any.
-/
namespace Joinery.Sql
open Emission Reader

def Seat.source (s : Seat) : Source := ⟨s.member.mapping.table, s.letter⟩

def Plan.sortedBy (p : Plan) (o : SortOrder) (ascending : Bool) : Except Fault Sorting := do
  let s ← p.resolve o.aliasName
  let c ← s.column o.property
  return .column s.letter c.name ascending

def Plan.sorting (p : Plan) (o : SortOrder) : Except Fault Sorting :=
  match o.direction with
  | .computed => .ok (.computed o.property)
  | .ascending => p.sortedBy o true
  | .descending => p.sortedBy o false

def Request.selection (d : Dialect) (p : Plan) : Request → Selection
  | .select _ => .columns (p.items d)
  | .count => .count

def Request.orders : Request → List SortOrder
  | .select orders => orders
  | .count => []

def joinTest (s other : Seat) : JoinExpression → Emission
  | .properties left right relation _ otherIsLeft positive =>
    if otherIsLeft then compareColumns other left relation positive s right
    else compareColumns s left relation positive other right
  | .value property literal relation _ positive =>
    compareLiteral other property relation literal positive

def Tests (p : Plan) (s : Seat) (e : JoinExpression) (g : List Token) : Prop :=
  ∃ other, p.resolve e.otherAlias = .ok other ∧ Writes (joinTest s other e) g

/-- How a store is attached: under its table and letter, by the kind of its join, with one
    condition for each of its expressions, and with its connective between them. -/
structure Attaches (p : Plan) (s : Seat) (a : Attached) : Prop where
  kind : s.member.joinType = some a.kind
  source : a.source = s.source
  conditions : List.Forall₂ (Tests p s) s.member.on a.groups
  connectives : ∀ other ∈ a.others, other.1 = s.member.connective

def Outline.owners (o : Outline) : List (Option String) :=
  o.filters.map (List.findSome? Token.name?)

structure Outline.Describes (d : Dialect) (p : Plan) (request : Request) (o : Outline) : Prop where
  selection : o.selection = request.selection d p
  first : p.seats.head?.map Seat.source = some o.first
  joins : List.Forall₂ (Attaches p) p.seats.tail o.joins
  filters : List.Forall₂ (fun part g => Writes (criteria d p part.1 part.2) g) (filtered p) o.filters
  owners : o.owners = (filtered p).map fun part => owner part.1.letter part.2.columnless
  orders : request.orders.mapM p.sorting = .ok o.orders

variable {d : Dialect} {p : Plan} {s : Seat} {ws : List Token}

theorem condition_of_means {e : Emission} {m : World → Option Truth}
    (means : Means (whole d) [.or, .and] e m) (written : Writes e ws) :
    ∃ c, Condition.ofWords d ws = some c := by
  obtain ⟨n, ts, ps, emits, rfl⟩ := written
  obtain ⟨c, read, -⟩ := read_of_means means emits
  exact ⟨c, read⟩

theorem grouped_criteria {c : Criteria} (written : Writes (criteria d p s c) ws) : Grouped d ws :=
  ⟨(phrased_criteria d p s c ws written).balanced, condition_of_means (means_criteria p c) written⟩

theorem grouped_joinTest {other : Seat} {e : JoinExpression}
    (written : Writes (joinTest s other e) ws) : Grouped d ws := by
  cases e with
  | properties left right relation aliasName otherIsLeft positive =>
    cases otherIsLeft <;>
      exact ⟨(phrased_compareColumns _ _ _ _ _ _ ws written).balanced,
        condition_of_means (means_whole (means_compareColumns _ _ _ _ _ _)) written⟩
  | value property literal relation aliasName positive =>
    exact ⟨(phrased_compareLiteral _ _ _ _ _ ws written).balanced,
      condition_of_means (means_whole (means_compareLiteral _ _ _ _)) written⟩

theorem writes_joinExpression (d : Dialect) {e : JoinExpression}
    (written : Writes (joinExpression p s e) ws) : ∃ g, ws = enclose g ∧ Tests p s e g ∧ Grouped d g := by
  obtain ⟨other, resolved, inner⟩ := writes_require written
  have inner : Writes (parenthesized (joinTest s other e)) ws := by
    cases e <;> exact inner
  obtain ⟨g, rfl, test⟩ := writes_parenthesized inner
  exact ⟨g, rfl, ⟨other, resolved, test⟩, grouped_joinTest test⟩

theorem writes_joinKeywords {aliasName : String} {kind : JoinType}
    (written : Writes (joinKeywords d aliasName kind) ws) : ws = writeKind kind := by
  cases kind with
  | inner => exact writes_tokens written
  | leftOuter => exact writes_tokens written
  | rightOuter => exact writes_tokens written
  | fullOuter =>
    unfold joinKeywords at written
    cases known : d.fullOuterJoin? with
    | none =>
      rw [known] at written
      exact absurd written not_writes_fail
    | some text =>
      rw [known] at written
      exact writes_tokens written

theorem written_from {α β : Type} {R : α → List Token → Prop} {S : α → β → Prop} {P : β → Prop}
    {write : β → List Token} {xs : List α} {parts : List (List Token)}
    (each : List.Forall₂ R xs parts)
    (inverse : ∀ x part, R x part → ∃ y, part = write y ∧ S x y ∧ P y) :
    ∃ ys, parts = ys.map write ∧ List.Forall₂ S xs ys ∧ ∀ y ∈ ys, P y := by
  induction each with
  | nil => exact ⟨[], rfl, .nil, nofun⟩
  | cons own others ih =>
    obtain ⟨y, rfl, related, holds⟩ := inverse _ _ own
    obtain ⟨ys, rfl, rest, all⟩ := ih
    exact ⟨y :: ys, rfl, .cons related rest, List.forall_mem_cons.mpr ⟨holds, all⟩⟩

theorem writes_onCondition (d : Dialect) (attached : s.member.on ≠ [])
    (written : Writes (onCondition p s) ws) :
    ∃ (first : List Token) (others : List (List Token)),
      ws = enclose first ++ (others.map (s.member.connective, ·)).flatMap writeAlso ∧
        List.Forall₂ (Tests p s) s.member.on (first :: others) ∧
        ∀ g ∈ first :: others, Grouped d g := by
  have inverse (e : JoinExpression) (part : List Token)
      (own : Writes (foundAt (.joinExpression e) (joinExpression p s e)) part) :
      ∃ g, part = enclose g ∧ Tests p s e g ∧ Grouped d g :=
    writes_joinExpression d (writes_foundAt own)
  unfold onCondition at written
  obtain ⟨e, on, expressions⟩ := List.exists_cons_of_ne_nil attached
  rw [expressions] at written ⊢
  obtain ⟨part, parts, rfl, own, later⟩ := writes_separated written
  obtain ⟨first, rfl, test, grouped⟩ := inverse e part own
  obtain ⟨others, rfl, each, all⟩ := written_from later inverse
  refine ⟨first, others, ?_, .cons test each, List.forall_mem_cons.mpr ⟨grouped, all⟩⟩
  rw [words_between, List.flatMap_map, List.flatMap_map]
  rfl

theorem writes_joinClause (attached : s.member.on ≠ []) (written : Writes (joinClause d p s) ws) :
    ∃ a : Attached, ws = a.write ∧ Attaches p s a ∧ ∀ g ∈ a.groups, Grouped d g := by
  unfold joinClause at written
  cases joinType : s.member.joinType with
  | none =>
    rw [joinType] at written
    exact absurd written not_writes_fail
  | some kind =>
    rw [joinType] at written
    obtain ⟨front, behind, rfl, lead, condition⟩ := writes_append written
    obtain ⟨keywords, rfl, joins⟩ := writes_around lead
    obtain ⟨first, others, rfl, tests, grouped⟩ := writes_onCondition d attached condition
    let a : Attached := ⟨kind, s.source, first, others.map (s.member.connective, ·)⟩
    have groups : a.groups = first :: others := by
      rw [Attached.groups, List.map_map]
      exact congrArg _ (List.map_id others)
    have connectives : ∀ other ∈ a.others, other.1 = s.member.connective := by
      intro other inside
      obtain ⟨g, -, rfl⟩ := List.mem_map.mp inside
      rfl
    refine ⟨a, ?_, ⟨joinType, rfl, groups ▸ tests, connectives⟩, groups ▸ grouped⟩
    rw [writes_joinKeywords joins]
    simp [a, Attached.write, Source.write, Seat.source, table, words, isSpace, Token.space, Token.on]

theorem writes_joins {seats : List Seat} (attached : ∀ s ∈ seats, s.member.on ≠ [])
    (written : Writes (concat (seats.map (joinClause d p))) ws) :
    ∃ joins : List Attached, ws = joins.flatMap Attached.write ∧
      List.Forall₂ (Attaches p) seats joins ∧ ∀ a ∈ joins, ∀ g ∈ a.groups, Grouped d g := by
  obtain ⟨parts, rfl, each⟩ := writes_concat written
  have both := (List.forall₂_and_left _ _).mpr ⟨attached, each⟩
  obtain ⟨joins, rfl, related, grouped⟩ := written_from both fun s part ⟨conditions, own⟩ =>
    writes_joinClause conditions own
  exact ⟨joins, List.flatMap_def.symm, related, grouped⟩

theorem writes_fromClause (attached : ∀ s ∈ p.seats.tail, s.member.on ≠ []) (some_seat : p.seats ≠ [])
    (written : Writes (fromClause d p) ws) :
    ∃ (first : Source) (joins : List Attached),
      ws = Token.source :: (first.write ++ joins.flatMap Attached.write) ∧
        p.seats.head?.map Seat.source = some first ∧ List.Forall₂ (Attaches p) p.seats.tail joins ∧
        ∀ a ∈ joins, ∀ g ∈ a.groups, Grouped d g := by
  unfold fromClause at written
  obtain ⟨s, rest, seats⟩ := List.exists_cons_of_ne_nil some_seat
  rw [seats] at written attached ⊢
  obtain ⟨us, vs, rfl, lead, later⟩ := writes_append written
  obtain ⟨joins, rfl, related, grouped⟩ := writes_joins attached later
  refine ⟨s.source, joins, ?_, rfl, related, grouped⟩
  rw [writes_tokens lead]
  rfl

theorem writes_whereClause (written : Writes (whereClause d p) ws) :
    ∃ filters : List (List Token), ws = writeFilters filters ∧
      List.Forall₂ (fun part g => Writes (criteria d p part.1 part.2) g) (filtered p) filters ∧
      ∀ g ∈ filters, Grouped d g := by
  have inverse (part : Seat × Criteria) (group : List Token)
      (own : Writes (filterPart d p part) group) :
      ∃ g, group = enclose g ∧ Writes (criteria d p part.1 part.2) g ∧ Grouped d g := by
    obtain ⟨g, rfl, inner⟩ := writes_parenthesized own
    have criteria := writes_foundAt inner
    exact ⟨g, rfl, criteria, grouped_criteria criteria⟩
  cases parts : filtered p with
  | nil =>
    unfold whereClause at written
    rw [parts] at written
    exact ⟨[], writes_tokens written, .nil, nofun⟩
  | cons part others =>
    rw [whereClause_eq part others parts] at written
    obtain ⟨us, vs, rfl, lead, condition⟩ := writes_append written
    obtain ⟨group, groups, rfl, own, later⟩ := writes_separated condition
    obtain ⟨g, rfl, filters, grouped⟩ := inverse part group own
    obtain ⟨gs, rfl, each, all⟩ := written_from later inverse
    refine ⟨g :: gs, ?_, .cons filters each, List.forall_mem_cons.mpr ⟨grouped, all⟩⟩
    rw [writes_tokens lead, words_between, List.flatMap_map]
    rfl

theorem owners_of_filters {parts : List (Seat × Criteria)} {filters : List (List Token)}
    (each : List.Forall₂ (fun part g => Writes (criteria d p part.1 part.2) g) parts filters) :
    filters.map (List.findSome? Token.name?) =
      parts.map fun part => owner part.1.letter part.2.columnless := by
  induction each with
  | nil => rfl
  | @cons part g parts filters own others ih =>
    rw [List.map_cons, List.map_cons, (phrased_criteria d p part.1 part.2 g own).first, ih]

theorem writes_sorted {o : SortOrder} {ascending : Bool}
    (written : Writes (require (p.resolve o.aliasName) fun s => column s o.property ++
      tokens [Token.space, .keyword (if ascending then .asc else .desc)]) ws) :
    ∃ s : Sorting, ws = s.write ∧ p.sortedBy o ascending = .ok s := by
  obtain ⟨s, resolved, sorted⟩ := writes_require written
  obtain ⟨us, vs, rfl, named, direction⟩ := writes_append sorted
  obtain ⟨c, mapped, qualified⟩ := writes_require named
  refine ⟨.column s.letter c.name ascending, ?_, ?_⟩
  · rw [writes_tokens qualified, writes_tokens direction]
    rfl
  · rw [Plan.sortedBy, resolved]
    change (s.column o.property).bind _ = _
    rw [mapped]
    rfl

theorem writes_orderItem {o : SortOrder} (written : Writes (orderItem p o) ws) :
    ∃ s : Sorting, ws = s.write ∧ p.sorting o = .ok s := by
  unfold orderItem at written
  unfold Plan.sorting
  cases direction : o.direction with
  | computed =>
    rw [direction] at written
    exact ⟨.computed o.property, writes_tokens written, rfl⟩
  | ascending =>
    rw [direction] at written
    exact writes_sorted written
  | descending =>
    rw [direction] at written
    exact writes_sorted written

theorem writes_orderClause {orders : List SortOrder} (written : Writes (orderClause p orders) ws) :
    ∃ sorted : List Sorting, ws = writeOrders sorted ∧
      List.Forall₂ (fun o s => p.sorting o = .ok s) orders sorted := by
  have inverse (o : SortOrder) (part : List Token) (own : Writes (orderItem p o) part) :
      ∃ s : Sorting, part = s.write ∧ p.sorting o = .ok s ∧ True := by
    obtain ⟨s, shape, known⟩ := writes_orderItem own
    exact ⟨s, shape, known, trivial⟩
  cases orders with
  | nil => exact ⟨[], writes_tokens written, .nil⟩
  | cons o orders =>
    obtain ⟨us, vs, rfl, lead, items⟩ := writes_append written
    obtain ⟨part, parts, rfl, own, later⟩ := writes_separated items
    obtain ⟨s, rfl, first, -⟩ := inverse o part own
    obtain ⟨sorted, rfl, each, -⟩ := written_from later inverse
    refine ⟨s :: sorted, ?_, .cons first each⟩
    rw [writes_tokens lead, List.flatMap_map]
    rfl

theorem orders_resolved {orders : List SortOrder} {sorted : List Sorting}
    (each : List.Forall₂ (fun o s => p.sorting o = .ok s) orders sorted) :
    orders.mapM p.sorting = .ok sorted := by
  induction each with
  | nil => rfl
  | cons own others ih =>
    rw [List.mapM_cons, own, ih]
    rfl

theorem words_lead (d : Dialect) (p : Plan) (request : Request) :
    words (request.lead d p) = Token.select :: (request.selection d p).write d := by
  cases request with
  | count => rfl
  | select orders =>
    rw [Request.lead, words_append, words_append, words_columnList]
    change Token.select :: (_ ++ []) = _
    rw [List.append_nil]
    rfl

theorem writes_statement (some_seat : p.seats ≠ []) (attached : ∀ s ∈ p.seats.tail, s.member.on ≠ [])
    (request : Request) (written : Writes (statement d p request) ws) :
    ∃ o : Outline, ws = o.write d ∧ o.Formed d ∧ o.Describes d p request := by
  rw [statement_eq] at written
  obtain ⟨us, vs, rfl, lead, rest⟩ := writes_append written
  rw [writes_tokens lead, words_lead]
  have parts : ∃ (shared : List Token) (sorted : List Sorting), vs = shared ++ writeOrders sorted ∧
      Writes (body d p) shared ∧
      List.Forall₂ (fun o s => p.sorting o = .ok s) request.orders sorted := by
    cases request with
    | count => exact ⟨vs, [], (List.append_nil vs).symm, rest, .nil⟩
    | select orders =>
      obtain ⟨shared, order, rfl, common, ending⟩ := writes_append rest
      obtain ⟨sorted, rfl, each⟩ := writes_orderClause ending
      exact ⟨shared, sorted, rfl, common, each⟩
  obtain ⟨shared, sorted, rfl, common, orders⟩ := parts
  obtain ⟨sources, conditions, rfl, source, filter⟩ := writes_append common
  obtain ⟨first, joins, rfl, head, attaches, grouped⟩ := writes_fromClause attached some_seat source
  obtain ⟨filters, rfl, each, filtering⟩ := writes_whereClause filter
  refine ⟨⟨request.selection d p, first, joins, filters, sorted⟩, ?_, ?_, ?_⟩
  · simp [Outline.write]
  · refine ⟨?_, grouped, filtering⟩
    intro none
    cases request with
    | count => cases none
    | select orders => exact items_ne_nil some_seat d (Selection.columns.inj none)
  · exact ⟨rfl, head, attaches, each, owners_of_filters each, orders_resolved orders⟩

/-- A complete statement is balanced and one sentence of the grammar. It is read back as an
    outline that tells what was joined, and outside of all parentheses it has no connectives
    but those between the conditions of its joins and between its filters. -/
theorem statement_decoded {members : List Member} {request : Request} {q : Query}
    (complete : (compile d members request q).failure = none) :
    let ts := (compile d members request q).query.tokens
    Balanced ts ∧ ∃ o : Outline, Outline.read ts = some o ∧ words ts = o.write d ∧ o.Formed d ∧
      surface 0 ts = o.connectives ∧ o.Describes d ⟨members⟩ request := by
  obtain ⟨p, accepted⟩ := accepted_of_complete complete
  obtain ⟨sameTokens, -, sameFailure⟩ := compile_accepted accepted d request q
  obtain ⟨rfl, -⟩ := Plan.ofMembers_ok accepted
  rw [sameFailure] at complete
  intro ts
  have written : Writes (statement d ⟨members⟩ request) (words ts) := by
    have tokens : ts = (statement d ⟨members⟩ request 0).tokens := sameTokens
    rw [tokens]
    exact writes_of_emits (emits_of_complete complete)
  obtain ⟨o, sentence, formed, describes⟩ := writes_statement (Plan.seats_ne_nil accepted)
    (Plan.seats_attached accepted) request written
  have shows : Shows o.connectives ts := shows_words (sentence ▸ shows_sentence formed)
  have read : Outline.read ts = some o := by
    rw [Outline.read, sentence]
    exact ofWords_sentence formed
  exact ⟨shows.balanced, o, read, sentence, formed, shows.surface, describes⟩

theorem statement_decoded_sample :
    let query := (compile .tsql [Sample.authors, Sample.books]
      (.select [⟨"books", "id", .descending⟩, ⟨"authors", "length(A.name)", .computed⟩]) default).query
    Balanced query.tokens ∧ ∃ o : Outline, Outline.read query.tokens = some o ∧
      o.first = ⟨"authors", "A"⟩ ∧
      o.joins.map (fun a => (a.kind, a.source, a.groups.length)) =
        [(.leftOuter, ⟨"books", "B"⟩, 2)] ∧
      o.owners = [some "A", some "B"] ∧
      o.orders = [.column "B" "id" false, .computed "length(A.name)"] := by
  intro query
  have complete : (compile .tsql [Sample.authors, Sample.books]
      (.select [⟨"books", "id", .descending⟩, ⟨"authors", "length(A.name)", .computed⟩])
      default).failure = none := by rfl
  obtain ⟨balanced, o, read, -, -, -, describes⟩ := statement_decoded complete
  refine ⟨balanced, o, read, (Option.some.inj describes.first).symm, ?_, ?_, ?_⟩
  · have joins : List.Forall₂ (Attaches Sample.plan) [⟨1, Sample.books⟩] o.joins := describes.joins
    obtain ⟨a, rest, attaches, none, shape⟩ := List.forall₂_cons_left_iff.mp joins
    rw [shape, List.forall₂_nil_left_iff.mp none, List.map_singleton, attaches.source,
      ← attaches.conditions.length_eq, ← Option.some.inj attaches.kind]
    rfl
  · exact describes.owners
  · exact (Except.ok.inj describes.orders).symm

/-- Of two stores either may filter by an empty disjunction: the statement is the same, and
    nothing that is read from it tells which of them does. -/
theorem filtering_store_untold :
    let never : Option Criteria := some ⟨.or, []⟩
    let first := [{ Sample.authors with criteria := never }, { Sample.books with criteria := none }]
    let second := [{ Sample.authors with criteria := none }, { Sample.books with criteria := never }]
    let select (members : List Member) := compile .ansi members (.select []) default
    (select first).failure = none ∧ (select second).failure = none ∧
      ¬ ∃ tell : List Token → List String, ∀ members ∈ [first, second],
        tell (select members).query.tokens = (filtered ⟨members⟩).map fun part => part.1.letter := by
  intro never first second select
  have same : (select first).query.tokens = (select second).query.tokens := by rfl
  refine ⟨by rfl, by rfl, ?_⟩
  rintro ⟨tell, tells⟩
  have one : tell (select first).query.tokens = ["A"] := tells first (by simp)
  have other : tell (select second).query.tokens = ["B"] := tells second (by simp)
  rw [same, other] at one
  exact absurd one (by decide)

end Joinery.Sql
