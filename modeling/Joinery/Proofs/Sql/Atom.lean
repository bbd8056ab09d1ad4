import Joinery.Proofs.Sql.Emission
import Joinery.Proofs.Sql.Meaning
import Joinery.Proofs.Sql.Reader

/-!
Leaves of conditions are read back as they were meant. The invariant of every part of
the compiler is that its words are taken for one condition, whatever may follow it, and
that this condition evaluates to the meaning of the source, wherever in a statement it
stands.
-/
namespace Joinery.Sql
open Emission Reader

def Ends (connectives : List Connective) (rest : List Token) : Prop :=
  ∀ c ∈ connectives, rest.head? ≠ some (word c)

/-- With enough fuel, the reader takes the words for the condition and stops there. -/
def Takes (read : Nat → Reader Condition) (stops : List Connective) (ts : List Token)
    (c : Condition) : Prop :=
  ∀ fuel rest, Ends stops rest → (words ts).length < fuel →
    read fuel (words ts ++ rest) = some (c, rest)

/-- The condition evaluates to the meaning when its parameters follow `n` others. -/
def Tells (c : Condition) (n : Nat) (ps : List Value) (meaning : World → Option Truth) : Prop :=
  ∀ w before after, before.length = n →
    meaning w = some (c.eval w (before ++ ps ++ after))

def Means (read : Nat → Reader Condition) (stops : List Connective) (e : Emission)
    (meaning : World → Option Truth) : Prop :=
  ∀ n ts ps, Emits e n ts ps → ∃ c, Takes read stops ts c ∧ Tells c n ps meaning

variable {d : Dialect} {s : Seat}

theorem word_injective {c c' : Connective} (same : word c = word c') : c = c' := by
  cases c <;> cases c' <;> first | rfl | exact absurd same (by decide)

theorem not_ends_paren (connectives : List Connective) (rest : List Token) :
    Ends connectives (.symbol .rparen :: rest) := by
  intro c _ same
  cases c <;> exact absurd same (by simp [word, Token.and, Token.or])

theorem means_of_eq {read : Nat → Reader Condition} {stops : List Connective} {e : Emission}
    {m m' : World → Option Truth} (same : ∀ w, m w = m' w) (h : Means read stops e m) :
    Means read stops e m' := by
  have : m = m' := funext same
  exact this ▸ h

theorem means_require {α : Type} {read : Nat → Reader Condition} {stops : List Connective}
    {check : Except Fault α} {k : α → Emission} {m : World → Option Truth}
    (h : ∀ a, check = .ok a → Means read stops (k a) m) :
    Means read stops (require check k) m := by
  intro n ts ps emits
  obtain ⟨a, ok, rest⟩ := emits_require.mp emits
  exact h a ok n ts ps rest

theorem means_foundAt {read : Nat → Reader Condition} {stops : List Connective} {e : Emission}
    {m : World → Option Truth} (place : Place) (h : Means read stops e m) :
    Means read stops (foundAt place e) m :=
  fun n ts ps emits => h n ts ps (emits_foundAt.mp emits)

theorem param_value (w : World) {before : List Value} {n : Nat} (count : before.length = n)
    (v : Value) (after : List Value) :
    (Operand.param (n + 1)).value w (before ++ v :: after) = v := by
  subst count
  simp [Operand.value]

theorem takes_atom {ts : List Token} {c : Condition}
    (h : ∀ fuel rest, factor d (fuel + 1) (words ts ++ rest) = some (c, rest)) :
    Takes (factor d) [] ts c := by
  intro fuel rest _ room
  cases fuel with
  | zero => omega
  | succ fuel => exact h fuel rest

theorem means_constant (holds : Bool) :
    Means (factor d) [] (constant holds) fun _ => some (.ofBool holds) := by
  intro n ts ps h
  obtain ⟨rfl, rfl⟩ := emits_tokens.mp h
  refine ⟨.compare .eq (.int 1) (.int (if holds then 1 else 0)), ?_, ?_⟩
  · exact takes_atom fun fuel rest => by cases holds <;> rfl
  · intro w before after _
    have same := w.collation.compare_self (.integer 1)
    have differ := w.collation.one_ne_zero
    cases holds
    · simp only [Condition.eval, World.test, Operand.value, Value.isNull, Comparator.accepts]
      simp [Truth.ofBool, differ]
    · simp only [Condition.eval, World.test, Operand.value, Value.isNull, Comparator.accepts]
      simp [Truth.ofBool, same]

theorem comparator_of_comparison (relation : Relation) (positive : Bool) :
    ∃ c, Comparator.ofSymbol? (comparison relation positive) = some c ∧
      ∀ (w : World) x y, w.test c.accepts x y =
        .signed positive (w.test relation.accepts x y) := by
  have complement (c : Comparator)
      (opposite : c.accepts = fun o => !relation.accepts o) (w : World) (x y : Value) :
      w.test c.accepts x y = .signed false (w.test relation.accepts x y) := by
    rw [opposite]
    exact (w.test_not relation.accepts x y).symm
  cases positive with
  | true => cases relation <;> exact ⟨_, rfl, fun w x y => rfl⟩
  | false =>
    cases relation
    · exact ⟨.ne, rfl, complement .ne (funext fun o => by cases o <;> rfl)⟩
    · exact ⟨.le, rfl, complement .le (funext fun o => by cases o <;> rfl)⟩
    · exact ⟨.ge, rfl, complement .ge (funext fun o => by cases o <;> rfl)⟩

theorem takes_comparison {c : Column} {k : Comparator} {symbol : Symbol} {y : Operand}
    {right : List Token} (found : Comparator.ofSymbol? symbol = some k)
    (operandRead : ∀ rest, operand (words right ++ rest) = some (y, rest)) :
    Takes (factor d) [] (s.qualified c ++ [Token.space, .symbol symbol, Token.space] ++ right)
      (.compare k (.column s.letter c.name) y) := by
  have apart : words (s.qualified c ++ [Token.space, .symbol symbol, Token.space] ++ right) =
      s.qualified c ++ .symbol symbol :: words right := by
    cases symbol <;> first | rfl | exact absurd found (by simp [Comparator.ofSymbol?])
  apply takes_atom
  intro fuel rest
  have read : predicate (s.qualified c ++ .symbol symbol :: (words right ++ rest)) =
      some (.compare k (.column s.letter c.name) y, rest) := by
    change (Comparator.ofSymbol? symbol).bind _ = _
    rw [found, Option.bind_some, operandRead]
    rfl
  rw [apart, List.append_assoc, List.cons_append]
  change (predicate _).or _ = _
  rw [read, Option.some_or]

theorem means_compareLiteral (property : String) (relation : Relation) (v : Value)
    (positive : Bool) :
    Means (factor d) [] (compareLiteral s property relation v positive)
      fun w => s.literalMeaning w property relation v positive := by
  apply means_require
  intro c mapped n ts ps h
  obtain ⟨ts₁, ps₁, ts₂, ps₂, left, right, rfl, rfl⟩ := emits_append.mp h
  obtain ⟨rfl, rfl⟩ := emits_tokens.mp left
  -- equality with null is a test of its own and binds nothing
  by_cases null : (v.isNull && relation = .equal) = true
  · rw [if_pos null] at right
    obtain ⟨rfl, rfl⟩ := emits_tokens.mp right
    refine ⟨.nullTest (.column s.letter c.name) positive, ?_, ?_⟩
    · exact takes_atom fun fuel rest => by cases positive <;> rfl
    · intro w before after _
      dsimp only
      rw [Seat.literalMeaning, field_of_column mapped w, Option.bind_some, if_pos null]
      rfl
  · rw [if_neg null] at right
    obtain ⟨x, coerced, rest⟩ := emits_require.mp right
    obtain ⟨ts₃, ps₃, ts₄, ps₄, symbol, bound, rfl, rfl⟩ := emits_append.mp rest
    obtain ⟨rfl, rfl⟩ := emits_tokens.mp symbol
    obtain ⟨rfl, rfl⟩ := emits_param.mp bound
    obtain ⟨k, found, tests⟩ := comparator_of_comparison relation positive
    have placeholder (rest : List Token) :
        operand (words [.param (n + 1)] ++ rest) = some (.param (n + 1), rest) := rfl
    refine ⟨.compare k (.column s.letter c.name) (.param (n + 1)), ?_, ?_⟩
    · exact takes_comparison found placeholder
    · intro w before after count
      dsimp only
      rw [Seat.literalMeaning, field_of_column mapped w, Option.bind_some, if_neg null,
        literal_of_coerce mapped coerced, Option.map_some, Condition.eval, tests]
      have bound := param_value w count x after
      simp only [List.nil_append, List.append_assoc, List.cons_append]
      rw [bound]
      rfl

theorem means_compareColumns (left : Seat) (property : String) (relation : Relation)
    (positive : Bool) (right : Seat) (other : String) :
    Means (factor d) [] (compareColumns left property relation positive right other)
      fun w => columnsMeaning w left property relation positive right other := by
  intro n ts ps h
  obtain ⟨ts₁, ps₁, ts₂, ps₂, inner, second, rfl, rfl⟩ := emits_append.mp h
  obtain ⟨ts₃, ps₃, ts₄, ps₄, first, symbol, rfl, rfl⟩ := emits_append.mp inner
  obtain ⟨c, mapped, named⟩ := emits_require.mp first
  obtain ⟨c', mapped', named'⟩ := emits_require.mp second
  obtain ⟨rfl, rfl⟩ := emits_tokens.mp named
  obtain ⟨rfl, rfl⟩ := emits_tokens.mp symbol
  obtain ⟨rfl, rfl⟩ := emits_tokens.mp named'
  obtain ⟨k, found, tests⟩ := comparator_of_comparison relation positive
  refine ⟨.compare k (.column left.letter c.name) (.column right.letter c'.name), ?_, ?_⟩
  · exact takes_comparison found fun rest => rfl
  · intro w before after _
    dsimp only
    rw [columnsMeaning, field_of_column mapped w, field_of_column mapped' w, Option.bind_some,
      Option.map_some, Condition.eval, tests]
    rfl

theorem means_isNull (property : String) (positive : Bool) :
    Means (factor d) [] (column s property ++ tokens [Token.space, nullTest positive])
      fun w => (s.field w property).map fun x => .signed positive (.ofBool x.isNull) := by
  intro n ts ps h
  obtain ⟨ts₁, ps₁, ts₂, ps₂, first, test, rfl, rfl⟩ := emits_append.mp h
  obtain ⟨c, mapped, named⟩ := emits_require.mp first
  obtain ⟨rfl, rfl⟩ := emits_tokens.mp named
  obtain ⟨rfl, rfl⟩ := emits_tokens.mp test
  refine ⟨.nullTest (.column s.letter c.name) positive, ?_, ?_⟩
  · exact takes_atom fun fuel rest => by cases positive <;> rfl
  · intro w before after _
    dsimp only
    rw [field_of_column mapped w]
    rfl

theorem listed_read (n count : Nat) (rest : List Token) :
    listed (.param n :: (List.range' (n + 1) count).flatMap
        (fun k => [Token.comma, .param k]) ++ .symbol .rparen :: rest) =
      some ((List.range' n (count + 1)).map .param, rest) := by
  induction count generalizing n with
  | zero => rfl
  | succ count ih =>
    change Option.map _ (listed (.param (n + 1) :: (List.range' (n + 2) count).flatMap
      (fun k => [Token.comma, .param k]) ++ .symbol .rparen :: rest)) = _
    rw [ih]
    rfl

theorem listed_values (w : World) {before : List Value} {n : Nat} (count : before.length = n)
    (vs after : List Value) :
    ((List.range' (n + 1) vs.length).map .param).map
      (Operand.value w (before ++ vs ++ after)) = vs := by
  induction vs generalizing before n with
  | nil => rfl
  | cons v rest ih =>
    have head := param_value w count v (rest ++ after)
    have shifted : (before ++ [v]).length = n + 1 := by simp [count]
    have same : before ++ [v] ++ rest ++ after = before ++ v :: (rest ++ after) := by simp
    have tail := ih shifted
    rw [same] at tail
    rw [List.length_cons, List.range'_succ, List.map_cons, List.map_cons, List.append_assoc,
      List.cons_append, head, tail]

theorem words_listed (n count : Nat) :
    words ((List.range' n count).flatMap fun k => [Token.comma, Token.space] ++ [.param k]) =
      (List.range' n count).flatMap fun k => [Token.comma, .param k] := by
  induction count generalizing n with
  | zero => rfl
  | succ count ih =>
    rw [List.range'_succ, List.flatMap_cons, List.flatMap_cons, words_append, ih]
    rfl

theorem predicate_membership (c : Column) (positive : Bool) {items rest : List Token}
    {xs : List Operand} (read : listed items = some (xs, rest)) :
    predicate (s.qualified c ++ (if positive then [] else [Token.not]) ++
        [Token.among, Token.lparen] ++ items) =
      some (.among (.column s.letter c.name) xs positive, rest) := by
  cases positive <;>
  · change Option.map _ (listed items) = _
    rw [read]
    rfl

theorem takes_membership (c : Column) (positive : Bool) (n count : Nat) :
    Takes (factor d) []
      (s.qualified c ++ [Token.space] ++ (if positive then [] else [Token.not, Token.space])
        ++ [Token.among, Token.space, Token.lparen]
        ++ .param n :: (List.range' (n + 1) count).flatMap
          (fun k => [Token.comma, Token.space] ++ [.param k])
        ++ [Token.rparen])
      (.among (.column s.letter c.name) ((List.range' n (count + 1)).map .param) positive) := by
  apply takes_atom
  intro fuel rest
  have read := predicate_membership (s := s) c positive (listed_read n count rest)
  have items : words (.param n :: (List.range' (n + 1) count).flatMap
      (fun k => [Token.comma, Token.space] ++ [.param k])) =
      .param n :: (List.range' (n + 1) count).flatMap fun k => [Token.comma, .param k] := by
    rw [← words_listed]
    rfl
  have lead : words (s.qualified c ++ [Token.space]
      ++ (if positive then [] else [Token.not, Token.space])
      ++ [Token.among, Token.space, Token.lparen]) =
      s.qualified c ++ (if positive then [] else [Token.not])
        ++ [Token.among, Token.lparen] := by
    cases positive <;> rfl
  rw [words_append, words_append, items, lead, List.append_assoc, List.append_assoc]
  change (predicate (_ ++ (_ ++ .symbol .rparen :: rest))).or _ = _
  rw [read, Option.some_or]

theorem means_membership (property : String) (values : List Value) (positive : Bool) :
    Means (factor d) [] (membership s property values positive) fun w =>
      if values.isEmpty then some (.signed positive .no)
      else
        (s.field w property).bind fun x =>
          (values.mapM (s.literal property)).map fun vs => .signed positive (w.oneOf x vs) := by
  unfold membership
  by_cases empty : values.isEmpty = true
  · simp only [empty, if_true]
    refine means_of_eq (fun w => ?_) (means_constant (!positive))
    cases positive <;> rfl
  · simp only [empty, Bool.false_eq_true, if_false]
    apply means_require
    intro c mapped
    apply means_require
    intro ws coerced
    have converted := literals_of_coerceAll mapped coerced
    have some_value : ws ≠ [] := by
      rintro rfl
      exact empty (List.isEmpty_iff.mpr (List.length_eq_zero_iff.mp (length_coerceAll coerced).symm))
    obtain ⟨v, vs, rfl⟩ := List.exists_cons_of_ne_nil some_value
    intro n ts ps h
    obtain ⟨ts₁, ps₁, ts₂, ps₂, inner, close, rfl, rfl⟩ := emits_append.mp h
    obtain ⟨ts₃, ps₃, ts₄, ps₄, lead, items, rfl, rfl⟩ := emits_append.mp inner
    obtain ⟨rfl, rfl⟩ := emits_tokens.mp lead
    obtain ⟨rfl, rfl⟩ := emits_tokens.mp close
    obtain ⟨rfl, rfl⟩ := emits_params items
    refine ⟨_, takes_membership c positive (n + 1) vs.length, ?_⟩
    intro w before after count
    have listedValues := listed_values w count (v :: vs) after
    dsimp only
    rw [field_of_column mapped w, converted, Option.bind_some, Option.map_some, Condition.eval,
      List.nil_append, List.append_nil]
    rw [List.length_cons] at listedValues
    rw [listedValues]
    rfl

theorem call_read (contains build : String) (c : Column) (k : Nat) (srid : Option Int64)
    (rest : List Token) :
    call contains build ([.function contains, Token.lparen] ++ s.qualified c
        ++ [Token.comma, .function build, Token.lparen] ++ .param k :: words (Sql.reference srid)
        ++ .symbol .rparen :: .symbol .rparen :: rest) =
      some (.within (.column s.letter c.name) (.param k) srid, rest) := by
  cases srid <;>
    simp [call, after, operand, Seat.qualified, Token.qualified, Sql.reference, Reader.reference,
      words, isSpace, Token.lparen, Token.rparen, Token.comma, Token.dot, Token.space]

theorem method_read (c : Column) (k : Nat) (srid : Int64) (rest : List Token) :
    method (s.qualified c ++ [Token.dot, .raw "STWithin", Token.lparen,
        .raw "geometry::STGeomFromText", Token.lparen, .param k, Token.comma, .int srid,
        Token.rparen, Token.rparen, Token.eq, .int 1] ++ rest) =
      some (.within (.column s.letter c.name) (.param k) (some srid), rest) := by
  simp [method, after, operand, Seat.qualified, Token.qualified, Reader.reference,
    Token.lparen, Token.rparen, Token.comma, Token.dot, Token.eq]

theorem factor_function (name : String) (fuel : Nat) (ts : List Token) :
    factor d (fuel + 1) (.function name :: ts) = Reader.containment d (.function name :: ts) := rfl

theorem factor_method (letter name : String) (fuel : Nat) (ts : List Token) :
    factor .tsql (fuel + 1) (Token.qualified letter name ++ Token.dot :: ts) =
      method (Token.qualified letter name ++ Token.dot :: ts) := rfl

theorem takes_call {contains build : String} (tail : List Token)
    (known : ∀ ts c rest, call contains build ts = some (c, words tail ++ rest) →
      Reader.containment d ts = some (c, rest))
    (c : Column) (k : Nat) (srid : Option Int64) :
    Takes (factor d) []
      ([.function contains, Token.lparen] ++ s.qualified c
        ++ [Token.comma, Token.space, .function build, Token.lparen] ++ [.param k]
        ++ (Sql.reference srid ++ ([Token.rparen, Token.rparen] ++ tail)))
      (.within (.column s.letter c.name) (.param k) srid) := by
  apply takes_atom
  intro fuel rest
  have called := known _ _ rest (call_read (s := s) contains build c k srid (words tail ++ rest))
  have apart : words ([.function contains, Token.lparen] ++ s.qualified c
        ++ [Token.comma, Token.space, .function build, Token.lparen] ++ [.param k]
        ++ (Sql.reference srid ++ ([Token.rparen, Token.rparen] ++ tail))) ++ rest =
      [.function contains, Token.lparen] ++ s.qualified c
        ++ [Token.comma, .function build, Token.lparen] ++ .param k :: words (Sql.reference srid)
        ++ .symbol .rparen :: .symbol .rparen :: (words tail ++ rest) := by
    simp only [words_append, List.append_assoc]
    rfl
  rw [apart]
  exact (factor_function contains fuel _).trans called

theorem takes_method (c : Column) (k : Nat) (srid : Int64) :
    Takes (factor .tsql) []
      (s.qualified c ++ [Token.dot, .raw "STWithin", Token.lparen, .raw "geometry::STGeomFromText",
          Token.lparen] ++ [.param k]
        ++ (Sql.reference (some srid) ++ [Token.rparen, Token.rparen, Token.space, Token.eq,
          Token.space, .int 1]))
      (.within (.column s.letter c.name) (.param k) (some srid)) := by
  apply takes_atom
  intro fuel rest
  exact (factor_method s.letter c.name fuel _).trans (method_read c k srid rest)

theorem takes_template {c : Column} {srid : Option Int64} {t : List Token × List Token}
    (found : template? d (s.qualified c) srid = some t) (k : Nat) :
    Takes (factor d) [] (t.1 ++ [.param k] ++ t.2)
      (.within (.column s.letter c.name) (.param k) (d.referenceUsed srid)) := by
  cases d with
  | ansi => exact absurd found (by simp [template?])
  | sqlite => exact absurd found (by simp [template?])
  | postgres =>
    cases found
    refine takes_call [] ?_ c k srid
    exact fun _ _ _ read => read
  | mysql =>
    cases found
    refine takes_call [] ?_ c k srid
    exact fun _ _ _ read => read
  | duckdb =>
    cases found
    refine takes_call [] ?_ c k none
    exact fun _ _ _ read => read
  | tsql =>
    cases found
    exact takes_method c k (srid.getD 0)
  | oracle =>
    cases found
    refine takes_call [Token.space, Token.eq, Token.space, .string "TRUE"] ?_ c k srid
    intro ts c rest read
    change (call "SDO_INSIDE" "SDO_GEOMETRY" ts).bind _ = _
    rw [read, Option.bind_some]
    change (after [Token.eq, .string "TRUE"] ([Token.eq, .string "TRUE"] ++ rest)).bind _ = _
    rw [after_append]
    rfl

theorem means_template {c : Column} {srid : Option Int64} {t : List Token × List Token}
    (found : template? d (s.qualified c) srid = some t) (v : Value) :
    Means (factor d) [] (tokens t.1 ++ param v ++ tokens t.2) fun w =>
      some (w.inside (w.cell s.letter c.name) v (d.referenceUsed srid)) := by
  intro n ts ps h
  obtain ⟨ts₁, ps₁, ts₂, ps₂, inner, close, rfl, rfl⟩ := emits_append.mp h
  obtain ⟨ts₃, ps₃, ts₄, ps₄, lead, bound, rfl, rfl⟩ := emits_append.mp inner
  obtain ⟨rfl, rfl⟩ := emits_tokens.mp lead
  obtain ⟨rfl, rfl⟩ := emits_tokens.mp close
  obtain ⟨rfl, rfl⟩ := emits_param.mp bound
  refine ⟨.within (.column s.letter c.name) (.param (n + 1)) (d.referenceUsed srid), ?_, ?_⟩
  · exact takes_template found (n + 1)
  · intro w before after count
    have bound := param_value w count v after
    simp only [List.nil_append, List.append_nil, List.append_assoc, List.cons_append,
      Condition.eval]
    rw [bound]
    rfl

end Joinery.Sql
