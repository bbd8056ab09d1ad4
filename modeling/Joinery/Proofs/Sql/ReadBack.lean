import Joinery.Proofs.Sql.Atom

/-!
Filters and join expressions are read back as they were meant: parentheses and the two
connectives keep what holds of the leaves, so that whole trees have it by induction.
-/
namespace Joinery.Sql
open Emission Reader

variable {d : Dialect} {s : Seat}

theorem several_last {connective : Connective} {item : Reader Condition} {fuel : Nat}
    {ts rest : List Token} {c : Condition} (read : item ts = some (c, rest))
    (stop : rest.head? ≠ some (word connective)) :
    several connective item (fuel + 1) ts = some (c, rest) := by
  unfold several
  rw [read]
  cases rest with
  | nil => rfl
  | cons t rest =>
    have other : t ≠ word connective := fun same => stop (by rw [same]; rfl)
    exact if_neg other

theorem several_more {connective : Connective} {item : Reader Condition} {fuel : Nat}
    {ts rest rest' : List Token} {c c' : Condition}
    (read : item ts = some (c, word connective :: rest))
    (others : several connective item fuel rest = some (c', rest')) :
    several connective item (fuel + 1) ts = some (.binary connective c c', rest') := by
  unfold several
  rw [read]
  change (if word connective = word connective then _ else _) = _
  rw [if_pos rfl, others]
  rfl

theorem ends_word {connective : Connective} {stops : List Connective} (other : connective ∉ stops)
    (rest : List Token) : Ends stops (word connective :: rest) := by
  intro c member same
  have : word connective = word c := Option.some.inj same
  exact other (word_injective this ▸ member)

theorem words_between (connective : Connective) : words (between connective) = [word connective] := by
  cases connective <;> rfl

theorem separated_cons_cons (sep : List Token) (e e' : Emission) (rest : List Emission) :
    separated sep (e :: e' :: rest) = e ++ (tokens sep ++ separated sep (e' :: rest)) := by
  have step : concat ((e' :: rest).map fun part => tokens sep ++ part) =
      tokens sep ++ separated sep (e' :: rest) := by
    rw [separated_cons, ← append_assoc]
    rfl
  rw [separated_cons, step]

theorem emits_singleton {sep : List Token} {e : Emission} {n : Nat} {ts : List Token}
    {ps : List Value} (h : Emits (separated sep [e]) n ts ps) : Emits e n ts ps := by
  obtain ⟨ts₁, ps₁, ts₂, ps₂, only, none, rfl, rfl⟩ := emits_append.mp h
  obtain ⟨rfl, rfl⟩ := emits_tokens.mp none
  rwa [List.append_nil, List.append_nil]

theorem tells_binary {connective : Connective} {c c' : Condition} {n : Nat} {ps ps' : List Value}
    {α : Type} {m : α → World → Option Truth} {x : α} {xs : List α} (first : Tells c n ps (m x))
    (others : Tells c' (n + ps.length) ps' fun w =>
      (xs.mapM fun y => m y w).map connective.fold) :
    Tells (.binary connective c c') n (ps ++ ps') fun w =>
      ((x :: xs).mapM fun y => m y w).map connective.fold := by
  intro w before after count
  have left := first w before (ps' ++ after) count
  have right := others w (before ++ ps) after (by rw [List.length_append, count])
  dsimp only at right ⊢
  rw [fold_mapM_cons, left, right, Option.bind_some, Option.map_some, Condition.eval]
  simp only [List.append_assoc]

theorem means_several {connective : Connective} {read : Nat → Reader Condition}
    {stops : List Connective} (other : connective ∉ stops) {α : Type} {f : α → Emission}
    {m : α → World → Option Truth} (x : α) (xs : List α)
    (h : ∀ y ∈ x :: xs, Means read stops (f y) (m y)) :
    Means (fun fuel => several connective (read fuel) fuel) (connective :: stops)
      (separated (between connective) ((x :: xs).map f))
      fun w => ((x :: xs).mapM fun y => m y w).map connective.fold := by
  intro n ts ps emits
  -- each member uses up one of `count`, while all of them have the same fuel
  suffices ∃ c, (∀ fuel count rest, Ends (connective :: stops) rest →
      (words ts).length < fuel → (words ts).length < count →
      several connective (read fuel) count (words ts ++ rest) = some (c, rest)) ∧
      Tells c n ps fun w => ((x :: xs).mapM fun y => m y w).map connective.fold by
    obtain ⟨c, takes, tells⟩ := this
    exact ⟨c, fun fuel rest ends room => takes fuel fuel rest ends room room, tells⟩
  induction xs generalizing x n ts ps with
  | nil =>
    obtain ⟨c, takes, tells⟩ := h x (by simp) n ts ps (emits_singleton emits)
    refine ⟨c, ?_, ?_⟩
    · intro fuel count rest ends room enough
      obtain ⟨count, rfl⟩ := Nat.exists_eq_succ_of_ne_zero (Nat.ne_zero_of_lt enough)
      have inner : Ends stops rest := fun c' member => ends c' (by simp [member])
      exact several_last (takes fuel rest inner room) (ends connective (by simp))
    · intro w before after count
      have only : ([x].mapM fun y => m y w) = some [c.eval w (before ++ ps ++ after)] := by
        rw [List.mapM_cons, tells w before after count]
        rfl
      dsimp only
      rw [only, Option.map_some, Connective.fold_cons, Connective.fold_nil,
        Connective.combine_neutral]
  | cons y ys ih =>
    rw [List.map_cons, List.map_cons, separated_cons_cons] at emits
    obtain ⟨ts₁, ps₁, ts', ps', first, later, rfl, rfl⟩ := emits_append.mp emits
    obtain ⟨ts₂, ps₂, ts₃, ps₃, sep, others, rfl, rfl⟩ := emits_append.mp later
    obtain ⟨rfl, rfl⟩ := emits_tokens.mp sep
    obtain ⟨c, takes, tells⟩ := h x (by simp) n ts₁ ps₁ first
    obtain ⟨c', takes', tells'⟩ :=
      ih y (fun z member => h z (List.mem_cons_of_mem x member)) _ _ _ others
    refine ⟨.binary connective c c', ?_, ?_⟩
    · intro fuel count rest ends room enough
      obtain ⟨count, rfl⟩ := Nat.exists_eq_succ_of_ne_zero (Nat.ne_zero_of_lt enough)
      rw [words_append, words_append, words_between] at room enough ⊢
      simp only [List.length_append, List.length_cons, List.length_nil] at room enough
      have head := takes fuel (word connective :: (words ts₃ ++ rest)) (ends_word other _) (by omega)
      have tail := takes' fuel count rest ends (by omega) (by omega)
      rw [List.append_assoc]
      exact several_more head tail
    · exact tells_binary tells tells'

theorem means_single {connective : Connective} {read : Nat → Reader Condition}
    {stops : List Connective} {e : Emission} {m : World → Option Truth}
    (h : Means read stops e m) :
    Means (fun fuel => several connective (read fuel) fuel) (connective :: stops) e m := by
  intro n ts ps emits
  obtain ⟨c, takes, tells⟩ := h n ts ps emits
  refine ⟨c, ?_, tells⟩
  intro fuel rest ends room
  have inner : Ends stops rest := fun c' member => ends c' (by simp [member])
  have read := takes fuel rest inner room
  obtain ⟨fuel, rfl⟩ := Nat.exists_eq_succ_of_ne_zero (Nat.ne_zero_of_lt room)
  exact several_last read (ends connective (by simp))

theorem means_whole {e : Emission} {m : World → Option Truth} (h : Means (factor d) [] e m) :
    Means (whole d) [.or, .and] e m :=
  means_single (means_single h)

theorem means_combined {connective : Connective} {α : Type} {f : α → Emission}
    {m : α → World → Option Truth} (xs : List α)
    (h : ∀ x ∈ xs, Means (factor d) [] (f x) (m x)) :
    Means (whole d) [.or, .and] (combined connective (xs.map f)) fun w =>
      (xs.mapM fun x => m x w).map connective.fold := by
  cases xs with
  | nil =>
    have neutral (w : World) : some (Truth.ofBool (connective = .and)) =
        (([] : List α).mapM fun x => m x w).map connective.fold := by
      cases connective <;> rfl
    exact means_of_eq neutral (means_whole (means_constant (connective = .and)))
  | cons x xs =>
    have filled : combined connective ((x :: xs).map f) =
        separated (between connective) ((x :: xs).map f) := rfl
    rw [filled]
    -- AND binds tighter: its members are factors, while those of OR may be products
    cases connective with
    | and => exact means_single (means_several (by simp) x xs h)
    | or => exact means_several (by simp) x xs fun y member => means_single (h y member)

theorem means_parenthesized {e : Emission} {m : World → Option Truth}
    (h : Means (whole d) [.or, .and] e m) : Means (factor d) [] (parenthesized e) m := by
  intro n ts ps emits
  obtain ⟨ts₁, ps₁, ts₂, ps₂, inner, close, rfl, rfl⟩ := emits_append.mp emits
  obtain ⟨ts₃, ps₃, ts₄, ps₄, lead, body, rfl, rfl⟩ := emits_append.mp inner
  obtain ⟨rfl, rfl⟩ := emits_tokens.mp lead
  obtain ⟨rfl, rfl⟩ := emits_tokens.mp close
  obtain ⟨c, takes, tells⟩ := h _ _ _ body
  refine ⟨c, ?_, ?_⟩
  · intro fuel rest _ room
    obtain ⟨fuel, rfl⟩ := Nat.exists_eq_succ_of_ne_zero (Nat.ne_zero_of_lt room)
    have apart : words ([Token.lparen] ++ ts₄ ++ [Token.rparen]) =
        .symbol .lparen :: (words ts₄ ++ [.symbol .rparen]) := by
      rw [words_append, words_append]
      rfl
    rw [apart] at room ⊢
    simp only [List.length_cons, List.length_append, List.length_nil] at room
    have read := takes fuel (.symbol .rparen :: rest) (not_ends_paren _ rest) (by omega)
    rw [List.cons_append, List.append_assoc, factor]
    change closing (whole d fuel (words ts₄ ++ .symbol .rparen :: rest)) = _
    rw [read]
    rfl
  · rw [List.nil_append, List.append_nil]
    exact tells

theorem means_not {e : Emission} {m : World → Option Truth} (h : Means (factor d) [] e m) :
    Means (factor d) [] (tokens [Token.not, Token.space] ++ e) fun w => (m w).map Truth.not := by
  intro n ts ps emits
  obtain ⟨ts₁, ps₁, ts₂, ps₂, lead, body, rfl, rfl⟩ := emits_append.mp emits
  obtain ⟨rfl, rfl⟩ := emits_tokens.mp lead
  obtain ⟨c, takes, tells⟩ := h _ _ _ body
  refine ⟨.not c, ?_, ?_⟩
  · intro fuel rest ends room
    obtain ⟨fuel, rfl⟩ := Nat.exists_eq_succ_of_ne_zero (Nat.ne_zero_of_lt room)
    have apart : words ([Token.not, Token.space] ++ ts₂) = .keyword .not :: words ts₂ := rfl
    rw [apart] at room ⊢
    simp only [List.length_cons] at room
    have read := takes fuel rest ends (by omega)
    rw [List.cons_append, factor, read]
    rfl
  · intro w before after count
    have value := tells w before after count
    dsimp only
    rw [value]
    rfl

theorem means_containmentIn (property : String) (shape : Shape) (positive : Bool) :
    Means (factor d) [] (containmentIn d s property shape positive) fun w =>
      (s.field w property).map fun x =>
        .signed positive (w.inside x (.text shape.wkt) (d.referenceUsed shape.srid)) := by
  rw [containmentIn_eq]
  apply means_require
  intro c mapped
  cases found : template? d (s.qualified c) shape.srid with
  | none => exact fun n ts ps emits => absurd emits not_emits_fail
  | some t =>
    have template := means_template found (.text shape.wkt)
    cases positive with
    | true =>
      refine means_of_eq (fun w => ?_) template
      rw [field_of_column mapped w]
      rfl
    | false =>
      have negated := means_not (means_parenthesized (means_whole template))
      -- the sign is part of the template, and yet it reads as NOT before all of it
      have same : tokens (negatable false t).1 ++ param (.text shape.wkt)
          ++ tokens (negatable false t).2 = tokens [Token.not, Token.space]
            ++ parenthesized (tokens t.1 ++ param (.text shape.wkt) ++ tokens t.2) := by
        funext n
        simp [append_apply, parenthesized, tokens, param, negatable]
      dsimp only
      rw [same]
      refine means_of_eq (fun w => ?_) negated
      rw [field_of_column mapped w]
      rfl

theorem means_expression (p : Plan) (e : Expression) :
    Means (factor d) [] (expression d p s e) fun w => expressionMeaning w d p s e := by
  -- a group is in parentheses, so whatever it holds it is one factor like the leaves
  induction e with
  | inList property values positive => exact means_membership property values positive
  | within property shape positive => exact means_containmentIn property shape positive
  | compare property relation v positive =>
    exact means_compareLiteral property relation v positive
  | compareProperty property relation aliasName other positive =>
    apply means_require
    intro o resolved
    have owner : p.otherStore s aliasName = some o := by
      cases aliasName with
      | none => exact congrArg some (Except.ok.inj resolved)
      | some aliasName => exact congrArg Except.toOption resolved
    refine means_of_eq (fun w => ?_)
      (means_compareColumns s property relation positive o other)
    rw [expressionMeaning, owner]
    rfl
  | isNull property positive => exact means_isNull property positive
  | group connective items ih =>
    rw [expression, expressions_eq_map]
    refine means_parenthesized (means_of_eq (fun w => ?_) (means_combined items ih))
    rw [expressionMeaning, expressionsMeaning_eq_mapM]

theorem means_criteria (p : Plan) (c : Criteria) :
    Means (whole d) [.or, .and] (criteria d p s c) fun w => criteriaMeaning w d p s c := by
  unfold criteria
  rw [expressions_eq_map]
  refine means_of_eq (fun w => ?_)
    (means_combined c.items fun e _ => means_expression p e)
  rw [criteriaMeaning, expressionsMeaning_eq_mapM]

theorem means_joinExpression (p : Plan) (e : JoinExpression) :
    Means (factor d) [] (joinExpression p s e) fun w => joinMeaning w p s e := by
  apply means_require
  intro other resolved
  apply means_parenthesized
  apply means_whole
  have owner : (p.resolve e.otherAlias).toOption = some other := by
    rw [resolved]
    rfl
  cases e with
  | properties left right relation aliasName otherIsLeft positive =>
    cases otherIsLeft with
    | true =>
      refine means_of_eq (fun w => ?_)
        (means_compareColumns other left relation positive s right)
      rw [joinMeaning, owner]
      rfl
    | false =>
      refine means_of_eq (fun w => ?_)
        (means_compareColumns s left relation positive other right)
      rw [joinMeaning, owner]
      rfl
  | value property literal relation aliasName positive =>
    refine means_of_eq (fun w => ?_)
      (means_compareLiteral property relation literal positive)
    rw [joinMeaning, owner]
    rfl

theorem read_of_means {e : Emission} {m : World → Option Truth}
    (h : Means (whole d) [.or, .and] e m) {n : Nat} {ts : List Token} {ps : List Value}
    (emits : Emits e n ts ps) : ∃ c, Condition.read d ts = some c ∧ Tells c n ps m := by
  obtain ⟨c, takes, tells⟩ := h n ts ps emits
  refine ⟨c, ?_, tells⟩
  have nothing : Ends [.or, .and] [] := fun c _ same => by cases same
  have read := takes ((words ts).length + 1) [] nothing (by omega)
  rw [List.append_nil] at read
  rw [Condition.read, Condition.ofWords, read]
  rfl

end Joinery.Sql
