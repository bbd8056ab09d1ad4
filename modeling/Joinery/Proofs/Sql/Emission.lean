import Joinery.Proofs.Criteria.Tree
import Joinery.Sql.Statement

/-!
What is known of an emission from its parts. A complete emission splits into complete
emissions of its parts, each counted from the parameters bound before it. And whatever
is kept by writing single words, by binding a parameter and by sequencing is kept by
every condition, complete or not.
-/
namespace Joinery.Sql
open Emission

/-- After `bound` parameters the emission is complete and adds these tokens and values. -/
def Emits (e : Emission) (bound : Nat) (ts : List Token) (ps : List Value) : Prop :=
  e bound = ⟨ts, ps, none⟩

theorem emits_of_complete {e : Emission} {n : Nat} (complete : (e n).failure = none) :
    Emits e n (e n).tokens (e n).params := by
  unfold Emits
  rw [← complete]

theorem emits_tokens {us ts : List Token} {n : Nat} {ps : List Value} :
    Emits (tokens us) n ts ps ↔ ts = us ∧ ps = [] := by
  simp only [Emits, tokens, Fragment.mk.injEq, and_true]
  exact ⟨fun h => ⟨h.1.symm, h.2.symm⟩, fun h => ⟨h.1.symm, h.2.symm⟩⟩

theorem not_emits_fail {e : Error} {n : Nat} {ts : List Token} {ps : List Value} :
    ¬ Emits (fail e) n ts ps := by
  simp [Emits, fail]

theorem emits_param {v : Value} {n : Nat} {ts : List Token} {ps : List Value} :
    Emits (param v) n ts ps ↔ ts = [.param (n + 1)] ∧ ps = [v] := by
  simp only [Emits, param, Fragment.mk.injEq, and_true]
  exact ⟨fun h => ⟨h.1.symm, h.2.symm⟩, fun h => ⟨h.1.symm, h.2.symm⟩⟩

theorem append_apply (a b : Emission) (n : Nat) :
    (a ++ b) n =
      match (a n).failure with
      | some _ => a n
      | none =>
        ⟨(a n).tokens ++ (b (n + (a n).params.length)).tokens,
          (a n).params ++ (b (n + (a n).params.length)).params,
          (b (n + (a n).params.length)).failure⟩ := rfl

theorem emits_append {a b : Emission} {n : Nat} {ts : List Token} {ps : List Value} :
    Emits (a ++ b) n ts ps ↔
      ∃ ts₁ ps₁ ts₂ ps₂, Emits a n ts₁ ps₁ ∧ Emits b (n + ps₁.length) ts₂ ps₂ ∧
        ts = ts₁ ++ ts₂ ∧ ps = ps₁ ++ ps₂ := by
  constructor
  · intro h
    unfold Emits at h
    rw [append_apply] at h
    split at h
    · rename_i failed
      rw [h] at failed
      exact absurd failed (by simp)
    · rename_i complete
      simp only [Fragment.mk.injEq] at h
      exact ⟨_, _, _, _, emits_of_complete complete, emits_of_complete h.2.2,
        h.1.symm, h.2.1.symm⟩
  · rintro ⟨ts₁, ps₁, ts₂, ps₂, first, second, rfl, rfl⟩
    unfold Emits at first second ⊢
    rw [append_apply, first]
    simp only [second]

theorem emits_require {α : Type} {check : Except Fault α} {k : α → Emission} {n : Nat}
    {ts : List Token} {ps : List Value} :
    Emits (require check k) n ts ps ↔ ∃ a, check = .ok a ∧ Emits (k a) n ts ps := by
  cases check with
  | error fault => simp [require, not_emits_fail]
  | ok a => simp [require]

theorem emits_foundAt {place : Place} {e : Emission} {n : Nat} {ts : List Token}
    {ps : List Value} : Emits (foundAt place e) n ts ps ↔ Emits e n ts ps := by
  unfold Emits foundAt
  cases e n
  simp

theorem append_assoc (a b c : Emission) : a ++ b ++ c = a ++ (b ++ c) := by
  funext n
  rw [append_apply, append_apply, append_apply]
  cases first : (a n).failure with
  | some e => simp [first]
  | none =>
    rw [append_apply]
    cases second : (b (n + (a n).params.length)).failure with
    | some e => simp [second]
    | none => simp [List.append_assoc, Nat.add_assoc]

theorem separated_cons (sep : List Token) (e : Emission) (rest : List Emission) :
    separated sep (e :: rest) = e ++ concat (rest.map fun part => tokens sep ++ part) := rfl

section Related
variable {R : Emission → Emission → Prop} {α : Type} {f g : α → Emission} {xs : List α}
  (append : ∀ {a a' b b' : Emission}, R a a' → R b b' → R (a ++ b) (a' ++ b'))
  (empty : R nothing nothing)
include append empty

theorem related_concat (related : ∀ x ∈ xs, R (f x) (g x)) :
    R (concat (xs.map f)) (concat (xs.map g)) := by
  induction xs with
  | nil => exact empty
  | cons x xs ih =>
    have rest := ih fun y member => related y (List.mem_cons_of_mem x member)
    exact append (related x List.mem_cons_self) rest

theorem related_separated {sep sep' : List Token} (between : R (tokens sep) (tokens sep'))
    (related : ∀ x ∈ xs, R (f x) (g x)) :
    R (separated sep (xs.map f)) (separated sep' (xs.map g)) := by
  cases xs with
  | nil => exact empty
  | cons x xs =>
    rw [List.map_cons, List.map_cons, separated_cons, separated_cons, List.map_map, List.map_map]
    apply append (related x List.mem_cons_self)
    apply related_concat append empty
    intro y member
    exact append between (related y (List.mem_cons_of_mem x member))

end Related

theorem emits_params_after {sep : List Token} {vs : List Value} {n : Nat} {ts : List Token}
    {ps : List Value}
    (h : Emits (concat ((vs.map param).map fun part => tokens sep ++ part)) n ts ps) :
    ts = (List.range' (n + 1) vs.length).flatMap (fun k => sep ++ [.param k]) ∧ ps = vs := by
  induction vs generalizing n ts ps with
  | nil => exact emits_tokens.mp h
  | cons v rest ih =>
    obtain ⟨ts₁, ps₁, ts₂, ps₂, first, others, rfl, rfl⟩ := emits_append.mp h
    obtain ⟨us, qs, us', qs', between, one, rfl, rfl⟩ := emits_append.mp first
    obtain ⟨rfl, rfl⟩ := emits_tokens.mp between
    obtain ⟨rfl, rfl⟩ := emits_param.mp one
    obtain ⟨rfl, rfl⟩ := ih others
    exact ⟨by simp [List.range'_succ], by simp⟩

theorem emits_params {sep : List Token} {v : Value} {vs : List Value} {n : Nat}
    {ts : List Token} {ps : List Value}
    (h : Emits (separated sep ((v :: vs).map param)) n ts ps) :
    ts = .param (n + 1) ::
        (List.range' (n + 2) vs.length).flatMap (fun k => sep ++ [.param k]) ∧
      ps = v :: vs := by
  obtain ⟨ts₁, ps₁, ts₂, ps₂, first, others, rfl, rfl⟩ := emits_append.mp h
  obtain ⟨rfl, rfl⟩ := emits_param.mp first
  obtain ⟨rfl, rfl⟩ := emits_params_after others
  exact ⟨rfl, rfl⟩

theorem expressions_eq_map (d : Dialect) (p : Plan) (s : Seat) (items : List Expression) :
    expressions d p s items = items.map (expression d p s) := by
  induction items with
  | nil => rfl
  | cons e rest ih => rw [expressions, ih, List.map_cons]

def template? (d : Dialect) (column : List Token) (srid : Option Int64) :
    Option (List Token × List Token) :=
  let calling (contains build : String) : List Token :=
    [.function contains, Token.lparen] ++ column
      ++ [Token.comma, Token.space, .function build, Token.lparen]
  match d with
  | .ansi => none
  | .sqlite => none
  | .postgres =>
    some (calling "ST_Within" "ST_GeomFromText", reference srid ++ [Token.rparen, Token.rparen])
  | .mysql =>
    some (calling "ST_Within" "ST_GeomFromText", reference srid ++ [Token.rparen, Token.rparen])
  | .duckdb => some (calling "ST_Within" "ST_GeomFromText", [Token.rparen, Token.rparen])
  | .tsql =>
    some (column ++ [Token.dot, .raw "STWithin", Token.lparen,
        .raw "geometry::STGeomFromText", Token.lparen],
      reference (some (srid.getD 0)) ++ [Token.rparen, Token.rparen, Token.space, Token.eq,
        Token.space, .int 1])
  | .oracle =>
    some (calling "SDO_INSIDE" "SDO_GEOMETRY", reference srid ++ [Token.rparen, Token.rparen,
        Token.space, Token.eq, Token.space, .string "TRUE"])

theorem within?_eq_template? (d : Dialect) (column : List Token) (k : Nat)
    (srid : Option Int64) :
    within? d column k srid =
      (template? d column srid).map fun t => t.1 ++ .param k :: t.2 := by
  cases d <;> simp [within?, template?, containment, containmentMethod, reference]

def negatable (positive : Bool) (t : List Token × List Token) : List Token × List Token :=
  if positive then t
  else ([Token.not, Token.space, Token.lparen] ++ t.1, t.2 ++ [Token.rparen])

theorem containmentIn_eq (d : Dialect) (s : Seat) (property : String) (shape : Shape)
    (positive : Bool) :
    containmentIn d s property shape positive =
      require (s.column property) fun c =>
        match template? d (s.qualified c) shape.srid with
        | none => fail (.unsupported d (.containment property))
        | some t =>
          tokens (negatable positive t).1 ++ param (.text shape.wkt)
            ++ tokens (negatable positive t).2 := by
  unfold containmentIn
  congr 1
  funext c n
  rw [within?_eq_template?]
  cases template? d (s.qualified c) shape.srid with
  | none => rfl
  | some t => cases positive <;> simp [append_apply, tokens, param, negatable]

def fixedWord : Token → Bool
  | .keyword .and | .keyword .or | .keyword .not => true
  | .keyword .among | .keyword .isNull | .keyword .isNotNull => true
  | .keyword _ => false
  | .param _ => false
  | .fullOuterJoin => false
  | _ => true

@[simp] theorem qualified_fixed (s : Seat) (c : Column) :
    (s.qualified c).all fixedWord = true := rfl

@[simp] theorem reference_fixed (srid : Option Int64) :
    (reference srid).all fixedWord = true := by
  cases srid <;> rfl

theorem template_fixed {d : Dialect} {column : List Token} {srid : Option Int64}
    {t : List Token × List Token} (fixed : column.all fixedWord = true)
    (found : template? d column srid = some t) :
    t.1.all fixedWord = true ∧ t.2.all fixedWord = true := by
  cases d <;> simp only [template?, reduceCtorEq, Option.some.injEq] at found <;> subst t <;>
    simp only [List.all_append, fixed, reference_fixed] <;> decide

theorem negatable_fixed (positive : Bool) {t : List Token × List Token}
    (fixed : t.1.all fixedWord = true ∧ t.2.all fixedWord = true) :
    (negatable positive t).1.all fixedWord = true ∧
      (negatable positive t).2.all fixedWord = true := by
  cases positive
  · simp only [negatable, Bool.false_eq_true, ↓reduceIte, List.all_append, fixed.1, fixed.2]
    decide
  · exact fixed

theorem all_mono {f g : Token → Bool} (weaker : ∀ t, f t = true → g t = true)
    {ts : List Token} (all : ts.all f = true) : ts.all g = true :=
  List.all_eq_true.mpr fun t member => weaker t (List.all_eq_true.mp all t member)

theorem all_intercalate {sep : List Token} {xs : List (List Token)} {f : Token → Bool}
    (hsep : sep.all f = true) (hxs : ∀ x ∈ xs, x.all f = true) :
    (sep.intercalate xs).all f = true := by
  induction xs with
  | nil => rfl
  | cons x rest ih =>
    have head := hxs x (by simp)
    have tail := ih fun y member => hxs y (by simp [member])
    cases rest with
    | nil => simpa using head
    | cons y rest =>
      rw [List.intercalate_cons_cons, List.all_append, List.all_append, head, hsep, tail]
      rfl

def listWord : Token → Bool
  | .ident _ => true
  | .keyword .named => true
  | .symbol .comma | .symbol .dot | .symbol .space => true
  | _ => false

theorem columnList_words (d : Dialect) (p : Plan) : (columnList d p).all listWord = true := by
  apply all_intercalate rfl
  intro item member
  obtain ⟨s, -, columns⟩ := List.mem_flatMap.mp member
  obtain ⟨c, -, rfl⟩ := List.mem_map.mp columns
  cases d <;> rfl

def statement (d : Dialect) (p : Plan) : Request → Emission
  | .select orders => selectStatement d p orders
  | .count => countStatement d p

def Request.leads (d : Dialect) (p : Plan) : Request → List String
  | .select _ => prefixes d p
  | .count => []

theorem compile_eq {members : List Member} {p : Plan} (accepted : Plan.ofMembers members = .ok p)
    (d : Dialect) (request : Request) (q : Query) :
    compile d members request q =
      ⟨Query.empty.append d (request.leads d p) (statement d p request 0),
        (statement d p request 0).failure⟩ := by
  unfold compile
  rw [accepted]
  cases request <;> rfl

theorem compile_accepted {members : List Member} {p : Plan}
    (accepted : Plan.ofMembers members = .ok p) (d : Dialect) (request : Request) (q : Query) :
    (compile d members request q).query.tokens = (statement d p request 0).tokens ∧
      (compile d members request q).query.params = (statement d p request 0).params ∧
      (compile d members request q).failure = (statement d p request 0).failure := by
  rw [compile_eq accepted]
  exact ⟨rfl, rfl, rfl⟩

theorem accepted_of_complete {d : Dialect} {members : List Member} {request : Request} {q : Query}
    (complete : (compile d members request q).failure = none) :
    ∃ p, Plan.ofMembers members = .ok p := by
  cases accepted : Plan.ofMembers members with
  | error fault =>
    rw [compile, accepted] at complete
    cases complete
  | ok p => exact ⟨p, rfl⟩

theorem compile_sql {d : Dialect} {members : List Member} {request : Request} {q : Query}
    (complete : (compile d members request q).failure = none) :
    (compile d members request q).query.sql =
      serialize d (compile d members request q).query.tokens := by
  obtain ⟨p, accepted⟩ := accepted_of_complete complete
  rw [compile_eq accepted] at complete ⊢
  have done : (statement d p request 0).failure = none := complete
  simp [Query.append, Query.empty, done]

/-- What writing fixed words, binding a parameter, failing, sequencing and telling the
    place of a failure all keep. -/
structure Closed (C : Emission → Prop) : Prop where
  words : ∀ {ts : List Token}, ts.all fixedWord = true → C (tokens ts)
  param : ∀ v, C (Emission.param v)
  fail : ∀ e, C (Emission.fail e)
  append : ∀ {a b : Emission}, C a → C b → C (a ++ b)
  foundAt : ∀ {e : Emission} (place : Place), C e → C (Emission.foundAt place e)

namespace Closed
variable {C : Emission → Prop} (closed : Closed C)
include closed

theorem require {α : Type} (check : Except Fault α) {k : α → Emission} (kept : ∀ a, C (k a)) :
    C (Emission.require check k) := by
  cases check with
  | error fault => exact closed.fail _
  | ok a => exact kept a

theorem concat {α : Type} {f : α → Emission} {xs : List α} (kept : ∀ x ∈ xs, C (f x)) :
    C (Emission.concat (xs.map f)) := by
  induction xs with
  | nil => exact closed.words rfl
  | cons x rest ih =>
    exact closed.append (kept x (by simp)) (ih fun y member => kept y (by simp [member]))

theorem separated {sep : List Token} (fixed : sep.all fixedWord = true) {α : Type}
    {f : α → Emission} {xs : List α} (kept : ∀ x ∈ xs, C (f x)) :
    C (Emission.separated sep (xs.map f)) := by
  cases xs with
  | nil => exact closed.words rfl
  | cons x rest =>
    rw [List.map_cons, separated_cons, List.map_map]
    apply closed.append (kept x (by simp))
    apply closed.concat
    intro y later
    exact closed.append (closed.words fixed) (kept y (by simp [later]))

theorem parenthesized {e : Emission} (kept : C e) : C (Sql.parenthesized e) :=
  closed.append (closed.append (closed.words rfl) kept) (closed.words rfl)

theorem constant (holds : Bool) : C (Sql.constant holds) :=
  closed.words (by cases holds <;> rfl)

theorem column (s : Seat) (property : String) : C (Sql.column s property) :=
  closed.require _ fun c => closed.words (qualified_fixed s c)

theorem compareLiteral (s : Seat) (property : String) (relation : Relation) (v : Value)
    (positive : Bool) : C (Sql.compareLiteral s property relation v positive) := by
  refine closed.require _ fun c => closed.append (closed.words ?_) ?_
  · rfl
  · split
    · exact closed.words (by cases positive <;> rfl)
    · exact closed.require _ fun x => closed.append (closed.words rfl) (closed.param x)

theorem compareColumns (left : Seat) (property : String) (relation : Relation)
    (positive : Bool) (right : Seat) (other : String) :
    C (Sql.compareColumns left property relation positive right other) := by
  exact closed.append (closed.append (closed.column left property) (closed.words rfl))
    (closed.column right other)

theorem membership (s : Seat) (property : String) (values : List Value) (positive : Bool) :
    C (Sql.membership s property values positive) := by
  unfold Sql.membership
  split
  · exact closed.constant _
  · apply closed.require
    intro c
    apply closed.require
    intro ws
    have lead : C (tokens (s.qualified c ++ [Token.space]
        ++ (if positive then [] else [Token.not, Token.space])
        ++ [Token.among, Token.space, Token.lparen])) :=
      closed.words (by cases positive <;> rfl)
    have items : C (Emission.separated [Token.comma, Token.space] (ws.map Emission.param)) :=
      closed.separated rfl fun v _ => closed.param v
    exact closed.append (closed.append lead items) (closed.words rfl)

theorem containmentIn (d : Dialect) (s : Seat) (property : String) (shape : Shape)
    (positive : Bool) : C (Sql.containmentIn d s property shape positive) := by
  rw [containmentIn_eq]
  apply closed.require
  intro c
  cases found : template? d (s.qualified c) shape.srid with
  | none => exact closed.fail _
  | some t =>
    have fixed := template_fixed (qualified_fixed s c) found
    obtain ⟨lead, tail⟩ := negatable_fixed positive fixed
    exact closed.append (closed.append (closed.words lead) (closed.param _)) (closed.words tail)

theorem combined (connective : Connective) {α : Type} {f : α → Emission} {xs : List α}
    (kept : ∀ x ∈ xs, C (f x)) : C (Sql.combined connective (xs.map f)) := by
  unfold Sql.combined
  split
  · exact closed.constant _
  · exact closed.separated (by cases connective <;> rfl) kept

theorem expression (d : Dialect) (p : Plan) (s : Seat) (e : Expression) :
    C (Sql.expression d p s e) := by
  induction e with
  | inList property values positive => exact closed.membership s property values positive
  | within property shape positive => exact closed.containmentIn d s property shape positive
  | compare property relation v positive => exact closed.compareLiteral s property relation v positive
  | compareProperty property relation aliasName other positive =>
    exact closed.require _ fun o => closed.compareColumns s property relation positive o other
  | isNull property positive =>
    exact closed.append (closed.column s property)
      (closed.words (by cases positive <;> rfl))
  | group connective items ih =>
    rw [Sql.expression, expressions_eq_map]
    exact closed.parenthesized (closed.combined connective ih)

theorem criteria (d : Dialect) (p : Plan) (s : Seat) (c : Criteria) :
    C (Sql.criteria d p s c) := by
  unfold Sql.criteria
  rw [expressions_eq_map]
  exact closed.combined _ fun e _ => closed.expression d p s e

theorem joinExpression (p : Plan) (s : Seat) (e : JoinExpression) :
    C (Sql.joinExpression p s e) := by
  apply closed.require
  intro other
  apply closed.parenthesized
  cases e with
  | properties left right relation aliasName otherIsLeft positive =>
    cases otherIsLeft <;> exact closed.compareColumns _ _ _ _ _ _
  | value property literal relation aliasName positive => exact closed.compareLiteral _ _ _ _ _

end Closed
end Joinery.Sql
