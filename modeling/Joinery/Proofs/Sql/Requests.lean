import Joinery.Proofs.Sql.Meaning
import Joinery.Proofs.Sql.SelectList

/-!
The two statements of a join side by side. Counting and selecting share all from FROM to
the end of WHERE, so they fail alike and bind the same values, and only the order of a
selection can fail by itself. What either leaves in a query is the same whatever the query
held before.
-/
namespace Joinery.Sql
open Emission

def sortedColumn (p : Plan) (o : SortOrder) (direction : Keyword) : Except Fault (List Token) := do
  let s ← p.resolve o.aliasName
  let c ← s.column o.property
  return s.qualified c ++ [Token.space, .keyword direction]

def orderWords (p : Plan) (o : SortOrder) : Except Fault (List Token) :=
  match o.direction with
  | .computed => .ok [.raw o.property]
  | .ascending => sortedColumn p o .asc
  | .descending => sortedColumn p o .desc

def orderPart : List (List Token) → List Token
  | [] => []
  | items => [Token.space, Token.orderBy, Token.space] ++ [Token.comma, Token.space].intercalate items

def Request.lead (d : Dialect) (p : Plan) : Request → List Token
  | .select _ => [Token.select, Token.space] ++ columnList d p ++ [Token.space]
  | .count => [Token.select, Token.space, .keyword .count, Token.lparen, Token.star, Token.rparen,
      Token.space]

theorem lead_apply (ts : List Token) (e : Emission) (n : Nat) :
    (tokens ts ++ e) n = ⟨ts ++ (e n).tokens, (e n).params, (e n).failure⟩ := rfl

def Request.rest (d : Dialect) (p : Plan) : Request → Emission
  | .select orders => body d p ++ orderClause p orders
  | .count => body d p

theorem statement_eq (d : Dialect) (p : Plan) (request : Request) :
    statement d p request = tokens (request.lead d p) ++ request.rest d p := by
  cases request with
  | select orders => exact append_assoc _ _ _
  | count => rfl

theorem rest_tokens {p : Plan} (some_seat : p.seats ≠ []) (d : Dialect) (request : Request)
    (n : Nat) : ∃ us, (request.rest d p n).tokens = Token.source :: us := by
  obtain ⟨us, front⟩ := body_tokens some_seat d n
  cases request with
  | select orders =>
    obtain ⟨us', whole⟩ := tokens_of_append (body d p) (orderClause p orders) n
    exact ⟨us ++ us', by rw [Request.rest, whole, front, List.cons_append]⟩
  | count => exact ⟨us, front⟩

def leadWord : Token → Bool
  | .keyword .source | .fullOuterJoin => false
  | _ => true

theorem lead_words (d : Dialect) (p : Plan) (request : Request) :
    (request.lead d p).all leadWord = true := by
  have listed (t : Token) (word : listWord t = true) : leadWord t = true := by
    cases t with
    | keyword k => cases k <;> first | rfl | cases word
    | fullOuterJoin => cases word
    | _ => rfl
  cases request with
  | select orders =>
    have columns : (columnList d p).all leadWord = true := all_mono listed (columnList_words d p)
    simp only [Request.lead, List.all_append, columns]
    rfl
  | count => rfl

theorem not_mem_lead {t : Token} (other : leadWord t = false) (d : Dialect) (p : Plan)
    (request : Request) : t ∉ request.lead d p := by
  intro inside
  have word := List.all_eq_true.mp (lead_words d p request) t inside
  rw [other] at word
  cases word

theorem compile_rest {members : List Member} {p : Plan} (accepted : Plan.ofMembers members = .ok p)
    (d : Dialect) (request : Request) (q : Query) :
    (compile d members request q).query.tokens =
        request.lead d p ++ (request.rest d p 0).tokens ∧
      (compile d members request q).query.params = (request.rest d p 0).params ∧
      (compile d members request q).failure = (request.rest d p 0).failure := by
  have parts := compile_accepted accepted d request q
  rwa [statement_eq, lead_apply] at parts

theorem sorted_eq (p : Plan) (o : SortOrder) (direction : Keyword) :
    (require (p.resolve o.aliasName) fun s =>
        column s o.property ++ tokens [Token.space, .keyword direction]) =
      require (sortedColumn p o direction) tokens := by
  unfold sortedColumn column
  cases p.resolve o.aliasName with
  | error fault => rfl
  | ok s =>
    simp only [require, bind, Except.bind]
    cases s.column o.property with
    | error fault => rfl
    | ok c => rfl

theorem orderItem_eq (p : Plan) (o : SortOrder) :
    orderItem p o = require (orderWords p o) tokens := by
  unfold orderItem orderWords
  cases o.direction with
  | computed => rfl
  | ascending => exact sorted_eq p o .asc
  | descending => exact sorted_eq p o .desc

section Checked
variable {α : Type} {f : α → Except Fault (List Token)}

theorem require_then (check : Except Fault (List Token)) (e : Emission) (n : Nat) :
    (require check tokens ++ e) n =
      match check with
      | .ok ts => ⟨ts ++ (e n).tokens, (e n).params, (e n).failure⟩
      | .error fault => ⟨[], [], some (.configuration fault)⟩ := by
  cases check <;> rfl

theorem mapM_cons_ok {x : α} {xs : List α} {items : List (List Token)}
    (written : (x :: xs).mapM f = .ok items) : ∃ ts us, items = ts :: us := by
  rw [List.mapM_cons] at written
  cases first : f x with
  | error fault =>
    rw [first] at written
    cases written
  | ok ts =>
    cases others : xs.mapM f with
    | error fault =>
      rw [first, others] at written
      cases written
    | ok us =>
      rw [first, others] at written
      cases written
      exact ⟨ts, us, rfl⟩

/-- Checked parts bind nothing. All of them are written, or the first fault is told. -/
theorem concat_checked (sep : List Token) (xs : List α) (n : Nat) :
    let written := concat (xs.map fun x => tokens sep ++ require (f x) tokens) n
    (∀ items, xs.mapM f = .ok items → written = ⟨items.flatMap (sep ++ ·), [], none⟩) ∧
      ∀ fault, xs.mapM f = .error fault →
        written.params = [] ∧ written.failure = some (.configuration fault) := by
  induction xs with
  | nil =>
    constructor
    · rintro items ⟨⟩
      rfl
    · rintro fault ⟨⟩
  | cons x xs ih =>
    obtain ⟨complete, failed⟩ := ih
    rw [List.map_cons, concat, append_assoc, lead_apply, require_then, List.mapM_cons]
    cases f x with
    | error fault =>
      constructor
      · rintro items ⟨⟩
      · rintro fault ⟨⟩
        exact ⟨rfl, rfl⟩
    | ok ts =>
      cases others : xs.mapM f with
      | error fault =>
        constructor
        · rintro items ⟨⟩
        · rintro fault ⟨⟩
          exact failed fault others
      | ok items =>
        constructor
        · rintro items ⟨⟩
          rw [complete items others, List.flatMap_cons, List.append_assoc]
        · rintro fault ⟨⟩

theorem intercalate_cons_flatMap (sep x : List Token) (xs : List (List Token)) :
    sep.intercalate (x :: xs) = x ++ xs.flatMap (sep ++ ·) := by
  induction xs generalizing x with
  | nil => simp
  | cons y ys ih => rw [List.intercalate_cons_cons, ih, List.flatMap_cons, List.append_assoc,
      List.append_assoc]

theorem separated_checked (sep : List Token) (xs : List α) (n : Nat) :
    let written := separated sep (xs.map fun x => require (f x) tokens) n
    (∀ items, xs.mapM f = .ok items → written = ⟨sep.intercalate items, [], none⟩) ∧
      ∀ fault, xs.mapM f = .error fault →
        written.params = [] ∧ written.failure = some (.configuration fault) := by
  -- the first part has no separator before it, so the loop over the others starts behind it
  cases xs with
  | nil =>
    constructor
    · rintro items ⟨⟩
      rfl
    · rintro fault ⟨⟩
  | cons x xs =>
    obtain ⟨complete, failed⟩ := concat_checked (f := f) sep xs n
    rw [List.map_cons, separated_cons, List.map_map, require_then, List.mapM_cons]
    cases f x with
    | error fault =>
      constructor
      · rintro items ⟨⟩
      · rintro fault ⟨⟩
        exact ⟨rfl, rfl⟩
    | ok ts =>
      cases others : xs.mapM f with
      | error fault =>
        constructor
        · rintro items ⟨⟩
        · rintro fault ⟨⟩
          exact failed fault others
      | ok items =>
        constructor
        · rintro items ⟨⟩
          rw [intercalate_cons_flatMap]
          exact congrArg (fun g : Fragment => Fragment.mk (ts ++ g.tokens) g.params g.failure)
            (complete items others)
        · rintro fault ⟨⟩

end Checked

variable {d : Dialect} {p : Plan}

theorem orderClause_apply (p : Plan) (orders : List SortOrder) (n : Nat) :
    let written := orderClause p orders n
    (∀ items, orders.mapM (orderWords p) = .ok items → written = ⟨orderPart items, [], none⟩) ∧
      ∀ fault, orders.mapM (orderWords p) = .error fault →
        written.params = [] ∧ written.failure = some (.configuration fault) ∧
          [Token.space, Token.orderBy, Token.space] <+: written.tokens := by
  cases orders with
  | nil =>
    constructor
    · rintro items ⟨⟩
      rfl
    · rintro fault ⟨⟩
  | cons o rest =>
    obtain ⟨complete, failed⟩ :=
      separated_checked (f := orderWords p) [Token.comma, Token.space] (o :: rest) n
    have same : orderClause p (o :: rest) = tokens [Token.space, Token.orderBy, Token.space]
        ++ separated [Token.comma, Token.space]
          ((o :: rest).map fun o => require (orderWords p o) tokens) := by
      unfold orderClause
      rw [funext (orderItem_eq p)]
      rfl
    rw [same, lead_apply]
    constructor
    · intro items written
      rw [complete items written]
      obtain ⟨ts, us, rfl⟩ := mapM_cons_ok written
      rfl
    · intro fault told
      obtain ⟨params, failure⟩ := failed fault told
      exact ⟨params, failure, List.prefix_append _ _⟩

theorem selectStatement_apply (d : Dialect) (p : Plan) (orders : List SortOrder) :
    let shared := body d p 0
    let order := orderClause p orders shared.params.length
    selectStatement d p orders 0 =
      match shared.failure with
      | some e => ⟨(Request.select orders).lead d p ++ shared.tokens, shared.params, some e⟩
      | none => ⟨(Request.select orders).lead d p ++ shared.tokens ++ order.tokens,
          shared.params ++ order.params, order.failure⟩ := by
  intro shared order
  have front := lead_apply ((Request.select orders).lead d p) (body d p) 0
  have whole : selectStatement d p orders =
      (tokens ((Request.select orders).lead d p) ++ body d p) ++ orderClause p orders := rfl
  rw [whole, append_apply, front, Nat.zero_add]
  cases complete : (body d p 0).failure <;> rfl

/-- What a count and a selection of the same rows have in common, `shared` being all from
    FROM to the end of WHERE. -/
structure SameRows (d : Dialect) (p : Plan) (orders : List SortOrder) (shared : List Token)
    (counted selected : Compiled) : Prop where
  params : selected.query.params = counted.query.params
  failure : ∀ e, counted.failure = some e → selected.failure = some e
  counted_tokens : counted.failure = none →
    counted.query.tokens = Request.count.lead d p ++ shared
  selected_tokens : selected.failure = none → ∃ items, orders.mapM (orderWords p) = .ok items ∧
    selected.query.tokens = (Request.select orders).lead d p ++ shared ++ orderPart items
  /-- A selection that could be counted stops at a column it is ordered by. -/
  order_failure : counted.failure = none → ∀ e, selected.failure = some e →
    ∃ fault, e = .configuration fault ∧ orders.mapM (orderWords p) = .error fault ∧
      (Request.select orders).lead d p ++ shared ++ [Token.space, Token.orderBy, Token.space] <+:
        selected.query.tokens

theorem sameRows_append (d : Dialect) (p : Plan) (orders : List SortOrder) (leads : List String) :
    let count := statement d p .count 0
    let select := statement d p (.select orders) 0
    SameRows d p orders (body d p 0).tokens ⟨Query.empty.append d [] count, count.failure⟩
      ⟨Query.empty.append d leads select, select.failure⟩ := by
  intro count select
  have counting : count =
      ⟨Request.count.lead d p ++ (body d p 0).tokens, (body d p 0).params, (body d p 0).failure⟩ := rfl
  have selecting : select = _ := selectStatement_apply d p orders
  obtain ⟨complete, failed⟩ := orderClause_apply p orders (body d p 0).params.length
  -- a failure in the shared body comes before any ordering is looked at
  cases shared : (body d p 0).failure with
  | some e =>
    rw [shared] at counting selecting
    constructor
    · simp [counting, selecting, Query.append]
    · simp [counting, selecting]
    · simp [counting]
    · simp [selecting]
    · simp [counting]
  | none =>
    rw [shared] at counting selecting
    cases sorted : orders.mapM (orderWords p) with
    | ok items =>
      rw [complete items sorted] at selecting
      constructor
      · simp [counting, selecting, Query.append]
      · simp [counting]
      · simp [counting, Query.append, Query.empty]
      · intro _
        refine ⟨items, sorted, ?_⟩
        simp [selecting, Query.append, Query.empty]
      · simp [selecting]
    | error fault =>
      obtain ⟨params, failure, clause⟩ := failed fault sorted
      dsimp only at selecting
      rw [params, failure] at selecting
      constructor
      · simp [counting, selecting, Query.append]
      · simp [counting]
      · simp [counting, Query.append, Query.empty]
      · simp [selecting]
      · intro _ e told
        rw [selecting] at told
        cases told
        refine ⟨fault, rfl, sorted, ?_⟩
        rw [selecting]
        exact (List.prefix_append_right_inj _).mpr clause

/-- A select and the count of it share one body, so they range over the same rows; only an
    ordering can make a select fail where the count succeeds. -/
theorem select_agrees_with_count {members : List Member} {p : Plan}
    (accepted : Plan.ofMembers members = .ok p) (d : Dialect) :
    ∃ shared, shared.head? = some Token.source ∧ ∀ q q' : Query,
      let counted := compile d members .count q
      (∀ orders, SameRows d p orders shared counted (compile d members (.select orders) q')) ∧
        ((compile d members (.select []) q').failure = none ↔ counted.failure = none) := by
  obtain ⟨us, front⟩ := body_tokens (Plan.seats_ne_nil accepted) d 0
  refine ⟨(body d p 0).tokens, by rw [front]; rfl, ?_⟩
  intro q q' counted
  have same (orders : List SortOrder) :
      SameRows d p orders (body d p 0).tokens counted (compile d members (.select orders) q') := by
    unfold counted
    rw [compile_eq accepted, compile_eq accepted]
    exact sameRows_append d p orders (prefixes d p)
  refine ⟨same, ?_⟩
  constructor
  · intro complete
    cases failed : counted.failure with
    | none => rfl
    | some e => rw [(same []).failure e failed] at complete; cases complete
  · intro complete
    cases failed : (compile d members (.select []) q').failure with
    | none => rfl
    | some e =>
      -- without orders there is no column to stop at
      obtain ⟨fault, -, sorted, -⟩ := (same []).order_failure complete e failed
      cases sorted

theorem select_agrees_with_count_sample :
    let members := [Sample.authors, Sample.books]
    let orders : List SortOrder := [⟨"authors", "name", .ascending⟩, ⟨"books", "title", .descending⟩]
    let counted := compile .postgres members .count default
    let selected := compile .postgres members (.select orders) default
    counted.failure = none ∧
      selected.failure = some (.configuration (.storePropertyNotMapped "books" "books" "title")) ∧
      selected.query.params = counted.query.params ∧
      ∃ shared, counted.query.tokens = Request.count.lead .postgres Sample.plan ++ shared ∧
        (Request.select orders).lead .postgres Sample.plan ++ shared
          ++ [Token.space, Token.orderBy, Token.space] <+: selected.query.tokens := by
  intro members orders counted selected
  have complete : counted.failure = none := by rfl
  have failed : selected.failure =
      some (.configuration (.storePropertyNotMapped "books" "books" "title")) := by rfl
  obtain ⟨shared, -, agree⟩ := select_agrees_with_count Sample.accepted .postgres
  have same : SameRows _ _ _ shared counted selected := (agree default default).1 orders
  obtain ⟨fault, -, -, clause⟩ := same.order_failure complete _ failed
  exact ⟨complete, failed, same.params, shared, same.counted_tokens complete, clause⟩

/-- Compiling clears the query first, so that nothing of an earlier statement is left, and
    writes no text unless the statement is complete. Stores that are refused leave the query as
    it is. -/
theorem compile_into_any (members : List Member) (d : Dialect) (request : Request) (q : Query) :
    let compiled := compile d members request q
    (∀ fault, Plan.ofMembers members = .error fault →
        compiled = ⟨q, some (.configuration fault)⟩) ∧
      ∀ p, Plan.ofMembers members = .ok p →
        compiled = compile d members request Query.empty ∧
        (compiled.failure = none → compiled.query.sql = serialize d compiled.query.tokens) ∧
        (compiled.failure ≠ none → compiled.query.sql = "") ∧
        compiled.query.prefixes = request.leads d p ∧
        (∀ orders, request = .select orders → compiled.query.prefixes.length = members.length) ∧
        (request = .count → compiled.query.prefixes = []) := by
  intro compiled
  refine ⟨?_, ?_⟩
  · intro fault refused
    unfold compiled compile
    rw [refused]
  intro p accepted
  have fresh : compiled = _ := compile_eq accepted d request q
  have leads : compiled.query.prefixes = request.leads d p := by
    rw [fresh]
    rfl
  refine ⟨?_, compile_sql, ?_, leads, ?_, ?_⟩
  · rw [fresh, compile_eq accepted]
  · intro failed
    rw [fresh] at failed ⊢
    simp [Query.append, Query.empty, Option.isNone_iff_eq_none, failed]
  · rintro orders rfl
    obtain ⟨rfl, -⟩ := Plan.ofMembers_ok accepted
    rw [leads, Request.leads, prefixes, List.length_map, Plan.length_seats]
  · rintro rfl
    exact leads

theorem compile_into_any_sample :
    let members := [Sample.authors, Sample.books]
    let used : Query := ⟨[.raw "old"], "old", [.integer 1], ["Z_"]⟩
    let compiled := compile .ansi members (.select []) used
    Plan.ofMembers members = .ok Sample.plan ∧
      compiled = compile .ansi members (.select []) Query.empty ∧
      compiled.failure = some (.unsupported .ansi (.containment "place")) ∧
      compiled.query.sql = "" ∧ compiled.query.prefixes.length = 2 ∧
      Plan.ofMembers [Sample.authors] = .error (.tooFewStores 1) ∧
      (compile .ansi [Sample.authors] .count used).query = used := by
  intro members used compiled
  have failed : compiled.failure = some (.unsupported .ansi (.containment "place")) := by rfl
  have alone : Plan.ofMembers [Sample.authors] = .error (.tooFewStores 1) := by rfl
  obtain ⟨-, accepts⟩ := compile_into_any members .ansi (.select []) used
  obtain ⟨fresh, -, textless, -, leads, -⟩ := accepts Sample.plan Sample.accepted
  obtain ⟨refuses, -⟩ := compile_into_any [Sample.authors] .ansi .count used
  refine ⟨Sample.accepted, fresh, failed, textless ?_, leads [] rfl, alone, ?_⟩
  · intro complete
    cases failed.symm.trans complete
  · rw [refuses _ alone]

end Joinery.Sql
