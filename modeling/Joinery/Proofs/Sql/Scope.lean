import Joinery.Proofs.Sql.Clause
import Mathlib.Data.List.Forall2

/-!
Which stores a join condition mentions. Behind the ON of a store stands one part for each
of its expressions; a comparison of properties mentions the store itself and the one that
its expression names, a comparison with a literal only the latter.
-/
namespace Joinery

def JoinExpression.letters (own other : String) : JoinExpression → List String
  | .properties _ _ _ _ otherIsLeft _ => if otherIsLeft then [other, own] else [own, other]
  | .value _ _ _ _ _ => [other]

namespace Sql
open Emission

def qualifiers : List Token → List String
  | .ident letter :: .symbol .dot :: .ident _ :: rest => letter :: qualifiers rest
  | _ :: rest => qualifiers rest
  | [] => []

theorem qualifiers_connective (k : Connective) (ts us : List Token) :
    qualifiers (ts ++ connectiveToken k :: us) = qualifiers ts ++ qualifiers us := by
  fun_induction qualifiers ts with
  | case1 letter name rest ih =>
    change letter :: qualifiers (rest ++ connectiveToken k :: us) = _
    rw [ih]
    rfl
  | case2 t rest other ih =>
    -- a column cannot begin before the connective and end behind it
    have unbroken : ∀ letter name later, t = .ident letter →
        rest ++ connectiveToken k :: us = .symbol .dot :: .ident name :: later → False := by
      intro letter name later first shape
      cases rest with
      | nil => cases k <;> cases shape
      | cons dot rest =>
        cases rest with
        | nil => cases k <;> cases shape
        | cons column rest =>
          cases shape
          exact other letter name rest first rfl
    rw [List.cons_append, qualifiers.eq_2 t _ unbroken, ih]
  | case3 => cases k <;> rfl

theorem qualifiers_intercalate (k : Connective) (parts : List (List Token)) :
    qualifiers ([connectiveToken k].intercalate parts) = parts.flatMap qualifiers := by
  induction parts with
  | nil => rfl
  | cons part parts ih =>
    cases parts with
    | nil => simp
    | cons next parts =>
      rw [List.intercalate_cons_cons, List.append_assoc, List.singleton_append,
        qualifiers_connective, ih]
      rfl

variable {d : Dialect} {p : Plan} {s : Seat}

def connects : Token → Bool
  | .keyword .and | .keyword .or => true
  | _ => false

theorem connective_not_mem {ts : List Token} (apart : ts.all (!connects ·) = true) (k : Connective) :
    connectiveToken k ∉ ts := by
  intro member
  have inside := List.all_eq_true.mp apart _ member
  cases k <;> cases inside

theorem compareColumns_words {left right : Seat} {property other : String} {relation : Relation}
    {positive : Bool} {n : Nat} {ts : List Token} {ps : List Value}
    (emits : Emits (parenthesized (compareColumns left property relation positive right other)) n
      ts ps) :
    qualifiers (words ts) = [left.letter, right.letter] ∧ (words ts).all (!connects ·) = true := by
  obtain ⟨ts₁, ps₁, ts₂, ps₂, inner, close, rfl, rfl⟩ := emits_append.mp emits
  obtain ⟨ts₃, ps₃, ts₄, ps₄, lead, columns, rfl, rfl⟩ := emits_append.mp inner
  obtain ⟨ts₅, ps₅, ts₆, ps₆, front, second, rfl, rfl⟩ := emits_append.mp columns
  obtain ⟨ts₇, ps₇, ts₈, ps₈, first, symbol, rfl, rfl⟩ := emits_append.mp front
  obtain ⟨c, -, named⟩ := emits_require.mp first
  obtain ⟨c', -, named'⟩ := emits_require.mp second
  obtain ⟨rfl, rfl⟩ := emits_tokens.mp close
  obtain ⟨rfl, rfl⟩ := emits_tokens.mp lead
  obtain ⟨rfl, rfl⟩ := emits_tokens.mp symbol
  obtain ⟨rfl, rfl⟩ := emits_tokens.mp named
  obtain ⟨rfl, rfl⟩ := emits_tokens.mp named'
  cases relation <;> cases positive <;> exact ⟨rfl, rfl⟩

theorem compareLiteral_words {property : String} {relation : Relation} {v : Value} {positive : Bool}
    {n : Nat} {ts : List Token} {ps : List Value}
    (emits : Emits (parenthesized (compareLiteral s property relation v positive)) n ts ps) :
    qualifiers (words ts) = [s.letter] ∧ (words ts).all (!connects ·) = true := by
  obtain ⟨ts₁, ps₁, ts₂, ps₂, inner, close, rfl, rfl⟩ := emits_append.mp emits
  obtain ⟨ts₃, ps₃, ts₄, ps₄, lead, test, rfl, rfl⟩ := emits_append.mp inner
  obtain ⟨c, -, rest⟩ := emits_require.mp test
  obtain ⟨ts₅, ps₅, ts₆, ps₆, named, right, rfl, rfl⟩ := emits_append.mp rest
  obtain ⟨rfl, rfl⟩ := emits_tokens.mp close
  obtain ⟨rfl, rfl⟩ := emits_tokens.mp lead
  obtain ⟨rfl, rfl⟩ := emits_tokens.mp named
  split at right
  · obtain ⟨rfl, rfl⟩ := emits_tokens.mp right
    cases positive <;> exact ⟨rfl, rfl⟩
  · obtain ⟨w, -, bound⟩ := emits_require.mp right
    obtain ⟨ts₇, ps₇, ts₈, ps₈, symbol, placeholder, rfl, rfl⟩ := emits_append.mp bound
    obtain ⟨rfl, rfl⟩ := emits_tokens.mp symbol
    obtain ⟨rfl, rfl⟩ := emits_param.mp placeholder
    cases relation <;> cases positive <;> exact ⟨rfl, rfl⟩

/-- The words of one join expression mention the store it names, and perhaps its own. -/
def Mentions (p : Plan) (s : Seat) (e : JoinExpression) (part : List Token) : Prop :=
  ∃ other, p.resolve e.otherAlias = .ok other ∧ qualifiers part = e.letters s.letter other.letter

theorem joinExpression_words {e : JoinExpression} {n : Nat} {ts : List Token} {ps : List Value}
    (emits : Emits (joinExpression p s e) n ts ps) :
    Mentions p s e (words ts) ∧ (words ts).all (!connects ·) = true := by
  obtain ⟨other, resolved, inner⟩ := emits_require.mp emits
  cases e with
  | properties left right relation aliasName otherIsLeft positive =>
    cases otherIsLeft with
    | true =>
      obtain ⟨letters, apart⟩ := compareColumns_words inner
      exact ⟨⟨other, resolved, letters⟩, apart⟩
    | false =>
      obtain ⟨letters, apart⟩ := compareColumns_words inner
      exact ⟨⟨other, resolved, letters⟩, apart⟩
  | value property literal relation aliasName positive =>
    obtain ⟨letters, apart⟩ := compareLiteral_words inner
    exact ⟨⟨other, resolved, letters⟩, apart⟩

theorem expressions_words {k : Connective} {on : List JoinExpression} {n : Nat} {ts : List Token}
    {ps : List Value}
    (emits : Emits (separated (between k)
      (on.map fun e => foundAt (.joinExpression e) (joinExpression p s e))) n ts ps) :
    ∃ parts, words ts = [connectiveToken k].intercalate parts ∧
      List.Forall₂ (Mentions p s) on parts ∧ ∀ part ∈ parts, connectiveToken k ∉ part := by
  induction on generalizing n ts ps with
  | nil =>
    obtain ⟨rfl, rfl⟩ := emits_tokens.mp emits
    exact ⟨[], rfl, .nil, fun part member => by cases member⟩
  | cons e rest ih =>
    cases rest with
    | nil =>
      obtain ⟨mentions, apart⟩ := joinExpression_words (emits_foundAt.mp (emits_singleton emits))
      refine ⟨[words ts], by simp, .cons mentions .nil, ?_⟩
      intro part member
      rw [List.mem_singleton.mp member]
      exact connective_not_mem apart k
    | cons e' rest =>
      rw [List.map_cons, List.map_cons, separated_cons_cons] at emits
      obtain ⟨ts₁, ps₁, ts', ps', first, later, rfl, rfl⟩ := emits_append.mp emits
      obtain ⟨ts₂, ps₂, ts₃, ps₃, sep, others, rfl, rfl⟩ := emits_append.mp later
      obtain ⟨rfl, rfl⟩ := emits_tokens.mp sep
      obtain ⟨mentions, apart⟩ := joinExpression_words (emits_foundAt.mp first)
      obtain ⟨parts, shape, all, separate⟩ := ih others
      have some_part : parts ≠ [] := by
        rintro rfl
        exact List.cons_ne_nil e' rest (List.forall₂_nil_right_iff.mp all)
      obtain ⟨part, parts, rfl⟩ := List.exists_cons_of_ne_nil some_part
      have sepWords : words (between k) = [connectiveToken k] := by cases k <;> rfl
      refine ⟨words ts₁ :: part :: parts, ?_, .cons mentions all, ?_⟩
      · rw [words_append, words_append, sepWords, shape, List.intercalate_cons_cons,
          List.append_assoc]
      · intro x member
        rcases List.mem_cons.mp member with rfl | later
        · exact connective_not_mem apart k
        · exact separate x later

structure Scoped (p : Plan) (s : Seat) (cond : List Token) : Prop where
  parts : List.Forall₂ (Mentions p s) s.member.on
    (cond.splitOn (connectiveToken s.member.connective))
  whole : qualifiers cond =
    (cond.splitOn (connectiveToken s.member.connective)).flatMap qualifiers

theorem scoped_onCondition (attached : s.member.on ≠ []) {n : Nat} {ts : List Token}
    {ps : List Value} (emits : Emits (onCondition p s) n ts ps) : Scoped p s (words ts) := by
  obtain ⟨parts, shape, mentions, separate⟩ := expressions_words emits
  have some_part : parts ≠ [] := by
    rintro rfl
    exact attached (List.forall₂_nil_right_iff.mp mentions)
  have split : (words ts).splitOn (connectiveToken s.member.connective) = parts := by
    rw [shape]
    exact List.splitOn_intercalate _ separate some_part
  refine ⟨split.symm ▸ mentions, ?_⟩
  rw [split, shape, qualifiers_intercalate]

theorem joins_scoped {seats : List Seat} (attached : ∀ s ∈ seats, s.member.on ≠ []) {n : Nat}
    {ts : List Token} {ps : List Value}
    (emits : Emits (concat (seats.map (joinClause d p))) n ts ps) :
    ∃ conds, List.Forall₂ (Scoped p) seats conds ∧
      ∀ us, Opening us → Opening (words ts ++ us) ∧
        joinWords (words ts ++ us) = conds ++ joinWords us := by
  induction seats generalizing n ts ps with
  | nil =>
    obtain ⟨rfl, rfl⟩ := emits_tokens.mp emits
    exact ⟨[], .nil, fun us next => ⟨next, rfl⟩⟩
  | cons s seats ih =>
    obtain ⟨ts₁, ps₁, ts₂, ps₂, first, later, rfl, rfl⟩ := emits_append.mp emits
    obtain ⟨t, lead, cond, shape, opens, silent, condition⟩ := joinClause_words first
    obtain ⟨conds, all, follows⟩ :=
      ih (fun s' member => attached s' (List.mem_cons_of_mem s member)) later
    have own := scoped_onCondition (attached s List.mem_cons_self) condition
    refine ⟨words cond :: conds, .cons own all, ?_⟩
    intro us next
    obtain ⟨opening, rest⟩ := follows us next
    obtain ⟨opening', ownWords⟩ :=
      joinWords_join opens silent (emits_spells plain_on condition) opening
    rw [words_append, shape, List.append_assoc, ownWords, rest]
    exact ⟨opening', rfl⟩

theorem fromClause_scoped (attached : ∀ s ∈ p.seats.tail, s.member.on ≠ []) {n : Nat}
    {ts : List Token} {ps : List Value} (emits : Emits (fromClause d p) n ts ps) :
    ∃ conds, List.Forall₂ (Scoped p) p.seats.tail conds ∧
      ∀ us, Opening us → joinWords (words ts ++ us) = conds ++ joinWords us := by
  unfold fromClause at emits
  cases seats : p.seats with
  | nil =>
    rw [seats] at emits
    obtain ⟨rfl, rfl⟩ := emits_tokens.mp emits
    exact ⟨[], .nil, fun us _ => rfl⟩
  | cons first rest =>
    rw [seats] at emits attached
    obtain ⟨ts₁, ps₁, ts₂, ps₂, lead, joins, rfl, rfl⟩ := emits_append.mp emits
    obtain ⟨rfl, rfl⟩ := emits_tokens.mp lead
    obtain ⟨conds, all, follows⟩ := joins_scoped attached joins
    have silent : (words ([Token.source, Token.space] ++ table first)).all quiet = true := rfl
    refine ⟨conds, all, fun us next => ?_⟩
    rw [words_append, List.append_assoc, joinWords_skip silent, (follows us next).2]

theorem statement_scoped (attached : ∀ s ∈ p.seats.tail, s.member.on ≠ []) (request : Request)
    {ts : List Token} {ps : List Value} (emits : Emits (statement d p request) 0 ts ps) :
    List.Forall₂ (Scoped p) p.seats.tail (joinWords (words ts)) := by
  obtain ⟨lead, us, next, qs, rest, shape, rfl, conditions, silent, quietEnd, opening⟩ :=
    statement_parts request emits
  obtain ⟨ts₁, ps₁, ts₂, ps₂, sources, filters, rfl, rfl⟩ := emits_append.mp conditions
  obtain ⟨filter, ending, -⟩ := whereClause_read filters
  obtain ⟨opening', noJoin, -⟩ := ending next quietEnd opening
  obtain ⟨conds, all, follows⟩ := fromClause_scoped attached sources
  have joins : joinWords (words ts) = conds := by
    rw [shape, words_append, List.append_assoc, List.append_assoc, joinWords_skip silent,
      follows _ opening', noJoin, List.append_nil]
  rw [joins]
  exact all

end Sql
end Joinery
