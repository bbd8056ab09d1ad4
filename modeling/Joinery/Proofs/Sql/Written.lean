import Joinery.Proofs.Sql.Nesting
import Joinery.Proofs.Sql.Spacing
import Mathlib.Data.List.Forall2

/-!
The words of complete emissions, wherever they stand in a statement. Conditions are
written balanced, and the first column that one mentions is of the store it belongs to;
only memberships in no values, and groups of nothing else, mention no column at all.
-/
namespace Joinery
namespace Expression

mutual

def columnless : Expression → Bool
  | .inList _ values _ => values.isEmpty
  | .group _ items => allColumnless items
  | _ => false

def allColumnless : List Expression → Bool
  | [] => true
  | e :: rest => columnless e && allColumnless rest

end

theorem allColumnless_eq_all (items : List Expression) :
    allColumnless items = items.all columnless := by
  induction items with
  | nil => rfl
  | cons e rest ih => rw [allColumnless, ih, List.all_cons]

end Expression

def Criteria.columnless (c : Criteria) : Bool := c.items.all Expression.columnless

namespace Sql
open Emission

def Writes (e : Emission) (ws : List Token) : Prop := ∃ n ts ps, Emits e n ts ps ∧ words ts = ws

section Writes
variable {a b e : Emission} {ws : List Token}

theorem writes_of_emits {n : Nat} {ts : List Token} {ps : List Value} (emits : Emits e n ts ps) :
    Writes e (words ts) := ⟨n, ts, ps, emits, rfl⟩

theorem writes_tokens {us : List Token} (written : Writes (tokens us) ws) : ws = words us := by
  obtain ⟨n, ts, ps, emits, rfl⟩ := written
  rw [(emits_tokens.mp emits).1]

theorem writes_param {v : Value} (written : Writes (param v) ws) : ∃ k, ws = [.param k] := by
  obtain ⟨n, ts, ps, emits, rfl⟩ := written
  obtain ⟨rfl, rfl⟩ := emits_param.mp emits
  exact ⟨n + 1, rfl⟩

theorem not_writes_fail {error : Error} : ¬ Writes (fail error) ws := by
  rintro ⟨n, ts, ps, emits, -⟩
  exact not_emits_fail emits

theorem writes_append (written : Writes (a ++ b) ws) :
    ∃ us vs, ws = us ++ vs ∧ Writes a us ∧ Writes b vs := by
  obtain ⟨n, ts, ps, emits, rfl⟩ := written
  obtain ⟨ts₁, ps₁, ts₂, ps₂, first, second, rfl, rfl⟩ := emits_append.mp emits
  exact ⟨_, _, words_append ts₁ ts₂, writes_of_emits first, writes_of_emits second⟩

theorem writes_require {α : Type} {check : Except Fault α} {k : α → Emission}
    (written : Writes (require check k) ws) : ∃ x, check = .ok x ∧ Writes (k x) ws := by
  obtain ⟨n, ts, ps, emits, rfl⟩ := written
  obtain ⟨x, ok, rest⟩ := emits_require.mp emits
  exact ⟨x, ok, writes_of_emits rest⟩

theorem writes_foundAt {place : Place} (written : Writes (foundAt place e) ws) : Writes e ws := by
  obtain ⟨n, ts, ps, emits, rfl⟩ := written
  exact writes_of_emits (emits_foundAt.mp emits)

theorem writes_around {lead tail : List Token} (written : Writes (tokens lead ++ e ++ tokens tail) ws) :
    ∃ inner, ws = words lead ++ inner ++ words tail ∧ Writes e inner := by
  obtain ⟨us, vs, rfl, front, behind⟩ := writes_append written
  obtain ⟨us, inner, rfl, before, inside⟩ := writes_append front
  rw [writes_tokens before, writes_tokens behind]
  exact ⟨inner, rfl, inside⟩

theorem writes_parenthesized (written : Writes (parenthesized e) ws) :
    ∃ inner, ws = enclose inner ∧ Writes e inner := writes_around written

theorem writes_concat {α : Type} {f : α → Emission} {xs : List α}
    (written : Writes (concat (xs.map f)) ws) :
    ∃ parts, ws = parts.flatten ∧ List.Forall₂ (fun x part => Writes (f x) part) xs parts := by
  induction xs generalizing ws with
  | nil => exact ⟨[], writes_tokens written, .nil⟩
  | cons x xs ih =>
    obtain ⟨us, vs, rfl, first, others⟩ := writes_append written
    obtain ⟨parts, rfl, each⟩ := ih others
    exact ⟨us :: parts, rfl, .cons first each⟩

theorem writes_separated_after {sep : List Token} {α : Type} {f : α → Emission} {xs : List α}
    (written : Writes (concat ((xs.map f).map fun part => tokens sep ++ part)) ws) :
    ∃ parts, ws = parts.flatMap (words sep ++ ·) ∧
      List.Forall₂ (fun x part => Writes (f x) part) xs parts := by
  induction xs generalizing ws with
  | nil => exact ⟨[], writes_tokens written, .nil⟩
  | cons x xs ih =>
    obtain ⟨us, vs, rfl, first, others⟩ := writes_append written
    obtain ⟨between, own, rfl, lead, part⟩ := writes_append first
    obtain ⟨parts, rfl, each⟩ := ih others
    refine ⟨own :: parts, ?_, .cons part each⟩
    rw [writes_tokens lead, List.flatMap_cons]

theorem writes_separated {sep : List Token} {α : Type} {f : α → Emission} {x : α} {xs : List α}
    (written : Writes (separated sep ((x :: xs).map f)) ws) :
    ∃ first others, ws = first ++ others.flatMap (words sep ++ ·) ∧ Writes (f x) first ∧
      List.Forall₂ (fun x part => Writes (f x) part) xs others := by
  rw [List.map_cons, separated_cons] at written
  obtain ⟨first, us, rfl, own, later⟩ := writes_append written
  obtain ⟨others, rfl, each⟩ := writes_separated_after later
  exact ⟨first, others, rfl, own, each⟩

end Writes

/-- Balanced words whose first name is this one, if they have names at all. -/
structure Phrase (name? : Option String) (ws : List Token) : Prop where
  balanced : Balanced ws
  first : ws.findSome? Token.name? = name?

theorem phrase_append {first second : Option String} {us vs : List Token} (hu : Phrase first us)
    (hv : Phrase second vs) : Phrase (first.or second) (us ++ vs) where
  balanced := balanced_append hu.balanced hv.balanced
  first := by rw [List.findSome?_append, hu.first, hv.first]

theorem phrase_separated {α : Type} {name? : α → Option String} {sep : List Token} {xs : List α}
    {parts : List (List Token)} (between : Phrase none sep)
    (each : List.Forall₂ (fun x part => Phrase (name? x) part) xs parts) :
    Phrase (xs.findSome? name?) (parts.flatMap (sep ++ ·)) := by
  induction each with
  | nil => exact ⟨rfl, rfl⟩
  | @cons x part xs parts own others ih =>
    have first : (x :: xs).findSome? name? = (none.or (name? x)).or (xs.findSome? name?) := by
      rw [List.findSome?_cons]
      cases name? x <;> rfl
    rw [first, List.flatMap_cons]
    exact phrase_append (phrase_append between own) ih

def Phrased (name? : Option String) (e : Emission) : Prop := ∀ ws, Writes e ws → Phrase name? ws

section Phrased
variable {name? other? : Option String} {a b e : Emission}

theorem phrased_tokens {ts : List Token} (phrase : Phrase name? (words ts)) :
    Phrased name? (tokens ts) := by
  intro ws written
  rw [writes_tokens written]
  exact phrase

theorem phrased_param (v : Value) : Phrased none (param v) := by
  intro ws written
  obtain ⟨k, rfl⟩ := writes_param written
  exact ⟨rfl, rfl⟩

theorem phrased_append (first : Phrased name? a) (second : Phrased other? b) :
    Phrased (name?.or other?) (a ++ b) := by
  intro ws written
  obtain ⟨us, vs, rfl, hu, hv⟩ := writes_append written
  exact phrase_append (first us hu) (second vs hv)

theorem phrased_require {α : Type} {check : Except Fault α} {k : α → Emission}
    (kept : ∀ x, Phrased name? (k x)) : Phrased name? (require check k) := by
  intro ws written
  obtain ⟨x, -, rest⟩ := writes_require written
  exact kept x ws rest

theorem phrased_around {lead tail : List Token} {depth : Nat}
    (opens : level 0 (words lead) = some depth) (inside : Phrased name? e)
    (closes : level depth (words tail) = some 0)
    (nameless : (words tail).findSome? Token.name? = none) :
    Phrased (((words lead).findSome? Token.name?).or name?) (tokens lead ++ e ++ tokens tail) := by
  intro ws written
  obtain ⟨inner, rfl, own⟩ := writes_around written
  have phrase := inside inner own
  constructor
  · exact balanced_around opens phrase.balanced closes
  · rw [List.findSome?_append, List.findSome?_append, phrase.first, nameless, Option.or_none]

theorem phrased_parenthesized (inside : Phrased name? e) : Phrased name? (parenthesized e) :=
  phrased_around rfl inside rfl rfl

theorem phrased_separated {sep : List Token} (between : Phrase none (words sep)) {α : Type}
    {f : α → Emission} {own? : α → Option String} {xs : List α}
    (each : ∀ x ∈ xs, Phrased (own? x) (f x)) :
    Phrased (xs.findSome? own?) (separated sep (xs.map f)) := by
  intro ws written
  -- the first name is that of the first item that has one
  cases xs with
  | nil =>
    rw [writes_tokens written]
    exact ⟨rfl, rfl⟩
  | cons x xs =>
    obtain ⟨first, others, rfl, own, later⟩ := writes_separated written
    have phrases : List.Forall₂ (fun x part => Phrase (own? x) part) xs others := by
      have both := (List.forall₂_and_left _ _).mpr
        ⟨fun y inside => each y (List.mem_cons_of_mem x inside), later⟩
      exact both.imp fun y part ⟨phrased, written⟩ => phrased part written
    have whole := phrase_append (each x List.mem_cons_self first own)
      (phrase_separated between phrases)
    have found : (x :: xs).findSome? own? = (own? x).or (xs.findSome? own?) := by
      rw [List.findSome?_cons]
      cases own? x <;> rfl
    rw [found]
    exact whole

end Phrased

section Conditions
variable (d : Dialect) (p : Plan) (s : Seat)

theorem phrased_constant (holds : Bool) : Phrased none (constant holds) := by
  apply phrased_tokens
  cases holds <;> exact ⟨rfl, rfl⟩

theorem phrased_column (property : String) : Phrased (some s.letter) (column s property) :=
  phrased_require fun _ => phrased_tokens ⟨rfl, rfl⟩

theorem phrased_compareLiteral (property : String) (relation : Relation) (v : Value)
    (positive : Bool) : Phrased (some s.letter) (compareLiteral s property relation v positive) := by
  apply phrased_require
  intro c
  have named : Phrased (some s.letter) (tokens (s.qualified c ++ [Token.space])) :=
    phrased_tokens ⟨rfl, rfl⟩
  have nullTest : Phrased none (tokens [nullTest positive]) := by
    apply phrased_tokens
    cases positive <;> exact ⟨rfl, rfl⟩
  have sign : Phrased none (tokens [.symbol (comparison relation positive), Token.space]) := by
    apply phrased_tokens
    cases relation <;> cases positive <;> exact ⟨rfl, rfl⟩
  apply phrased_append named
  split
  · exact nullTest
  · exact phrased_require fun x => phrased_append sign (phrased_param x)

theorem phrased_compareColumns (left : Seat) (property : String) (relation : Relation)
    (positive : Bool) (right : Seat) (other : String) :
    Phrased (some left.letter) (compareColumns left property relation positive right other) := by
  have sign : Phrased none
      (tokens [Token.space, .symbol (comparison relation positive), Token.space]) := by
    apply phrased_tokens
    cases relation <;> cases positive <;> exact ⟨rfl, rfl⟩
  exact phrased_append (phrased_append (phrased_column left property) sign)
    (phrased_column right other)

theorem phrased_membership (property : String) (values : List Value) (positive : Bool) :
    Phrased (if values.isEmpty then none else some s.letter)
      (membership s property values positive) := by
  unfold membership
  split
  · exact phrased_constant _
  · apply phrased_require
    intro c
    apply phrased_require
    intro ws
    have items : Phrased none (separated [Token.comma, Token.space] (ws.map param)) := by
      have between : Phrase none (words [Token.comma, Token.space]) := ⟨rfl, rfl⟩
      have each := phrased_separated between fun (v : Value) (_ : v ∈ ws) => phrased_param v
      rwa [List.findSome?_eq_none_iff.mpr fun _ _ => rfl] at each
    cases positive <;> exact phrased_around rfl items rfl rfl

/-- The template of a containment, negated or not, begins with the column and closes as many
    parentheses behind the parameter as it opens before. -/
theorem template_phrase {c : Column} {srid : Option Int64} {t : List Token × List Token}
    (found : template? d (s.qualified c) srid = some t) (positive : Bool) :
    ∃ depth, level 0 (words (negatable positive t).1) = some depth ∧
      level depth (words (negatable positive t).2) = some 0 ∧
      (words (negatable positive t).1).findSome? Token.name? = some s.letter ∧
      (words (negatable positive t).2).findSome? Token.name? = none := by
  cases d <;> simp only [template?, reduceCtorEq, Option.some.injEq] at found <;> subst t <;>
    cases positive <;> cases srid <;> exact ⟨_, rfl, rfl, rfl, rfl⟩

theorem phrased_containmentIn (property : String) (shape : Shape) (positive : Bool) :
    Phrased (some s.letter) (containmentIn d s property shape positive) := by
  rw [containmentIn_eq]
  apply phrased_require
  intro c
  cases found : template? d (s.qualified c) shape.srid with
  | none => exact fun ws written => absurd written not_writes_fail
  | some t =>
    obtain ⟨depth, opens, closes, column, nameless⟩ := template_phrase d s found positive
    have whole := phrased_around opens (phrased_param (.text shape.wkt)) closes nameless
    rwa [column] at whole

def owner (letter : String) (columnless : Bool) : Option String :=
  if columnless then none else some letter

theorem findSome_owner {α : Type} (letter : String) (columnless : α → Bool) (xs : List α) :
    xs.findSome? (fun x => owner letter (columnless x)) = owner letter (xs.all columnless) := by
  induction xs with
  | nil => rfl
  | cons x xs ih =>
    rw [List.findSome?_cons, List.all_cons, ih]
    cases columnless x <;> rfl

theorem phrased_combined (connective : Connective) {α : Type} {f : α → Emission}
    {own? : α → Option String} {xs : List α} (each : ∀ x ∈ xs, Phrased (own? x) (f x)) :
    Phrased (xs.findSome? own?) (combined connective (xs.map f)) := by
  unfold combined
  split
  · rename_i none
    rw [List.isEmpty_iff, List.map_eq_nil_iff] at none
    subst none
    exact phrased_constant _
  · apply phrased_separated _ each
    cases connective <;> exact ⟨rfl, rfl⟩

theorem phrased_expression (e : Expression) :
    Phrased (owner s.letter e.columnless) (expression d p s e) := by
  induction e with
  | inList property values positive => exact phrased_membership s property values positive
  | within property shape positive => exact phrased_containmentIn d s property shape positive
  | compare property relation v positive =>
    exact phrased_compareLiteral s property relation v positive
  | compareProperty property relation aliasName other positive =>
    exact phrased_require fun o => phrased_compareColumns s property relation positive o other
  | isNull property positive =>
    have test : Phrased none (tokens [Token.space, nullTest positive]) := by
      apply phrased_tokens
      cases positive <;> exact ⟨rfl, rfl⟩
    exact phrased_append (phrased_column s property) test
  | group connective items ih =>
    have whole := phrased_parenthesized (phrased_combined connective ih)
    rw [findSome_owner] at whole
    rw [expression, expressions_eq_map, Expression.columnless, Expression.allColumnless_eq_all]
    exact whole

theorem phrased_criteria (c : Criteria) :
    Phrased (owner s.letter c.columnless) (criteria d p s c) := by
  have whole := phrased_combined c.connective fun e (_ : e ∈ c.items) => phrased_expression d p s e
  rw [findSome_owner] at whole
  rw [criteria, expressions_eq_map]
  exact whole

end Conditions
end Sql
end Joinery
