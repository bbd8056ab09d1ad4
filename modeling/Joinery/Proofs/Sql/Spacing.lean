import Joinery.Proofs.Sql.Scanning

/-!
Everything that the compiler emits is well spaced: between any two tokens that could be
taken for one stands a space, a comma or a parenthesis. So the text of a statement is
read as the tokens that it was written from, whatever its tables and columns are called.
-/
namespace Joinery.Sql
open Emission

theorem spaced_append {ts us : List Token} (first : spaced ts = true) (second : spaced us = true)
    (apart : ts.getLast?.all delimits = true ∨ opens us = true) : spaced (ts ++ us) = true := by
  induction ts with
  | nil => exact second
  | cons t ts ih =>
    simp only [spaced, Bool.and_eq_true, Bool.or_eq_true] at first
    obtain ⟨⟨familiar, near⟩, others⟩ := first
    cases ts with
    | nil =>
      have boundary : delimits t = true ∨ opens us = true := apart
      simp only [List.singleton_append, spaced, familiar, second, Bool.true_and, Bool.and_true,
        Bool.or_eq_true]
      exact boundary
    | cons t' ts =>
      have rest := ih others (by rwa [List.getLast?_cons_cons] at apart)
      have boundary : delimits t = true ∨ opens (t' :: ts ++ us) = true := near
      rw [List.cons_append, spaced, familiar, rest, Bool.and_true, Bool.true_and, Bool.or_eq_true]
      exact boundary

def Spaced (e : Emission) : Prop := ∀ n, spaced (e n).tokens = true

def Opens (e : Emission) : Prop := ∀ n, opens (e n).tokens = true

theorem spaced_follow {a b : Emission} (first : Spaced a) (second : Spaced b) (open_part : Opens b) :
    Spaced (a ++ b) := by
  intro n
  rw [append_apply]
  split
  · exact first n
  · exact spaced_append (first n) (second _) (.inr (open_part _))

theorem spaced_lead {ts : List Token} {e : Emission} (lead : spaced ts = true)
    (closed : ts.getLast?.all delimits = true) (after : Spaced e) : Spaced (tokens ts ++ e) :=
  fun n => spaced_append lead (after (n + 0)) (.inl closed)

theorem opens_append {a b : Emission} (first : Opens a) (second : Opens b) : Opens (a ++ b) := by
  intro n
  rw [append_apply]
  split
  · exact first n
  · have start := first n
    cases shape : (a n).tokens with
    | nil => exact second _
    | cons t ts =>
      rw [shape] at start
      exact start

theorem opens_lead {t : Token} {ts : List Token} {e : Emission} (delimiter : delimits t = true) :
    Opens (tokens (t :: ts) ++ e) := fun _ => delimiter

theorem spaced_require {α : Type} {check : Except Fault α} {k : α → Emission}
    (kept : ∀ a, Spaced (k a)) : Spaced (require check k) := by
  cases check with
  | error fault => exact fun n => rfl
  | ok a => exact kept a

theorem opens_concat {α : Type} {f : α → Emission} {xs : List α} (kept : ∀ x ∈ xs, Opens (f x)) :
    Opens (concat (xs.map f)) := by
  induction xs with
  | nil => exact fun n => rfl
  | cons x rest ih =>
    exact opens_append (kept x (by simp)) (ih fun y member => kept y (by simp [member]))

theorem spaced_concat {α : Type} {f : α → Emission} {xs : List α}
    (kept : ∀ x ∈ xs, Spaced (f x) ∧ Opens (f x)) : Spaced (concat (xs.map f)) := by
  induction xs with
  | nil => exact fun n => rfl
  | cons x rest ih =>
    have own := (kept x (by simp)).1
    have others : ∀ y ∈ rest, Spaced (f y) ∧ Opens (f y) := fun y member => kept y (by simp [member])
    exact spaced_follow own (ih others) (opens_concat fun y member => (others y member).2)

theorem spaced_separated {t : Token} {sep : List Token} (delimiter : delimits t = true)
    (between : spaced (t :: sep) = true) (closed : (t :: sep).getLast?.all delimits = true)
    {α : Type} {f : α → Emission} {xs : List α} (kept : ∀ x ∈ xs, Spaced (f x)) :
    Spaced (separated (t :: sep) (xs.map f)) := by
  cases xs with
  | nil => exact fun n => rfl
  | cons x rest =>
    rw [List.map_cons, separated_cons, List.map_map]
    have later : ∀ y ∈ rest, Opens (tokens (t :: sep) ++ f y) := fun y _ => opens_lead delimiter
    apply spaced_follow (kept x (by simp)) _ (opens_concat later)
    apply spaced_concat
    intro y member
    exact ⟨spaced_lead between closed (kept y (by simp [member])), later y member⟩

theorem spaced_parenthesized {e : Emission} (inside : Spaced e) : Spaced (parenthesized e) := by
  have close : Spaced (tokens [Token.rparen]) := fun n => rfl
  exact spaced_follow (spaced_lead rfl rfl inside) close fun n => rfl

theorem spaced_constant (holds : Bool) : Spaced (constant holds) := by
  intro n
  cases holds <;> rfl

theorem spaced_column (s : Seat) (property : String) : Spaced (column s property) :=
  spaced_require fun _ _ => rfl

theorem spaced_compareLiteral (s : Seat) (property : String) (relation : Relation) (v : Value)
    (positive : Bool) : Spaced (compareLiteral s property relation v positive) := by
  apply spaced_require
  intro c
  apply spaced_lead rfl rfl
  split
  · intro n
    cases positive <;> rfl
  · have sign : spaced [.symbol (comparison relation positive), Token.space] = true := by
      cases relation <;> cases positive <;> rfl
    exact spaced_require fun x => spaced_lead sign rfl fun n => rfl

theorem spaced_compareColumns (left : Seat) (property : String) (relation : Relation)
    (positive : Bool) (right : Seat) (other : String) :
    Spaced (compareColumns left property relation positive right other) := by
  have sign : spaced [Token.space, .symbol (comparison relation positive), Token.space] = true := by
    cases relation <;> cases positive <;> rfl
  unfold compareColumns
  -- a column neither begins nor ends with a delimiter; the words between two of them do both
  rw [append_assoc]
  exact spaced_follow (spaced_column left property)
    (spaced_lead sign rfl (spaced_column right other)) (opens_lead rfl)

theorem spaced_membership (s : Seat) (property : String) (values : List Value)
    (positive : Bool) : Spaced (membership s property values positive) := by
  unfold membership
  split
  · exact spaced_constant _
  · apply spaced_require
    intro c
    apply spaced_require
    intro ws
    have items : Spaced (separated [Token.comma, Token.space] (ws.map param)) :=
      spaced_separated rfl rfl rfl fun v _ n => rfl
    have close : Spaced (tokens [Token.rparen]) := fun n => rfl
    refine spaced_follow (spaced_lead ?_ ?_ items) close fun n => rfl
    · cases positive <;> rfl
    · cases positive <;> rfl

theorem spaced_template {d : Dialect} {s : Seat} {c : Column} {srid : Option Int64}
    {t : List Token × List Token} (found : template? d (s.qualified c) srid = some t)
    (positive : Bool) :
    spaced (negatable positive t).1 = true ∧
      (negatable positive t).1.getLast?.all delimits = true ∧
      spaced (negatable positive t).2 = true ∧ opens (negatable positive t).2 = true := by
  cases d <;> simp only [template?, reduceCtorEq, Option.some.injEq] at found <;> subst t <;>
    cases srid <;> cases positive <;> exact ⟨rfl, rfl, rfl, rfl⟩

theorem spaced_containmentIn (d : Dialect) (s : Seat) (property : String) (shape : Shape)
    (positive : Bool) : Spaced (containmentIn d s property shape positive) := by
  rw [containmentIn_eq]
  apply spaced_require
  intro c
  cases found : template? d (s.qualified c) shape.srid with
  | none => exact fun n => rfl
  | some t =>
    obtain ⟨lead, closed, tail, open_tail⟩ := spaced_template found positive
    have bound : Spaced (param (.text shape.wkt)) := fun n => rfl
    exact spaced_follow (spaced_lead lead closed bound) (fun n => tail) fun n => open_tail

theorem spaced_combined (connective : Connective) {α : Type} {f : α → Emission} {xs : List α}
    (kept : ∀ x ∈ xs, Spaced (f x)) : Spaced (combined connective (xs.map f)) := by
  unfold combined
  split
  · exact spaced_constant _
  · apply spaced_separated rfl _ rfl kept
    cases connective <;> rfl

theorem spaced_expression (d : Dialect) (p : Plan) (s : Seat) (e : Expression) :
    Spaced (expression d p s e) := by
  induction e with
  | inList property values positive => exact spaced_membership s property values positive
  | within property shape positive => exact spaced_containmentIn d s property shape positive
  | compare property relation v positive =>
    exact spaced_compareLiteral s property relation v positive
  | compareProperty property relation aliasName other positive =>
    exact spaced_require fun o => spaced_compareColumns s property relation positive o other
  | isNull property positive =>
    have test : Spaced (tokens [Token.space, nullTest positive]) := by
      intro n
      cases positive <;> rfl
    exact spaced_follow (spaced_column s property) test fun n => rfl
  | group connective items ih =>
    rw [expression, expressions_eq_map]
    exact spaced_parenthesized (spaced_combined connective ih)

theorem spaced_criteria (d : Dialect) (p : Plan) (s : Seat) (c : Criteria) :
    Spaced (criteria d p s c) := by
  unfold criteria
  rw [expressions_eq_map]
  exact spaced_combined _ fun e _ => spaced_expression d p s e

theorem spaced_joinExpression (p : Plan) (s : Seat) (e : JoinExpression) :
    Spaced (joinExpression p s e) := by
  apply spaced_require
  intro other
  apply spaced_parenthesized
  cases e with
  | properties left right relation aliasName otherIsLeft positive =>
    cases otherIsLeft <;> exact spaced_compareColumns _ _ _ _ _ _
  | value property literal relation aliasName positive => exact spaced_compareLiteral _ _ _ _ _

theorem spaced_joinKeywords (d : Dialect) (aliasName : String) (type : JoinType) :
    Spaced (joinKeywords d aliasName type) := by
  intro n
  cases type with
  | inner | leftOuter | rightOuter => rfl
  | fullOuter => cases d <;> rfl

theorem spaced_joinClause (d : Dialect) (p : Plan) (s : Seat) :
    Spaced (joinClause d p s) ∧ Opens (joinClause d p s) := by
  unfold joinClause
  cases s.member.joinType with
  | none => exact ⟨fun n => rfl, fun n => rfl⟩
  | some type =>
    dsimp only
    rw [append_assoc, append_assoc]
    refine ⟨?_, opens_lead rfl⟩
    apply spaced_lead rfl rfl
    apply spaced_follow (spaced_joinKeywords d _ type) _ (opens_lead rfl)
    apply spaced_lead rfl rfl
    apply spaced_separated rfl (by cases s.member.connective <;> rfl) rfl
    exact fun e _ => spaced_joinExpression p s e

theorem spaced_fromClause (d : Dialect) (p : Plan) : Spaced (fromClause d p) := by
  unfold fromClause
  cases p.seats with
  | nil => exact fun n => rfl
  | cons first rest =>
    have joins : ∀ s ∈ rest, Spaced (joinClause d p s) ∧ Opens (joinClause d p s) :=
      fun s _ => spaced_joinClause d p s
    have lead : Spaced (tokens ([Token.source, Token.space] ++ table first)) := fun n => rfl
    exact spaced_follow lead (spaced_concat joins) (opens_concat fun s member => (joins s member).2)

theorem spaced_filterClause (d : Dialect) (p : Plan) (part : Seat × Criteria) {lead : Keyword} :
    Spaced (filterClause d p (.keyword lead) part) :=
  spaced_lead rfl rfl (spaced_parenthesized (spaced_criteria d p part.1 part.2))

theorem spaced_whereClause (d : Dialect) (p : Plan) :
    Spaced (whereClause d p) ∧ Opens (whereClause d p) := by
  unfold whereClause
  cases filtered p with
  | nil => exact ⟨fun n => rfl, fun n => rfl⟩
  | cons first rest =>
    have others : Opens (concat (rest.map (filterClause d p Token.and))) :=
      opens_concat fun part _ => opens_lead rfl
    refine ⟨?_, opens_append (opens_lead rfl) others⟩
    apply spaced_follow (spaced_filterClause d p first) _ others
    exact spaced_concat fun part _ => ⟨spaced_filterClause d p part, opens_lead rfl⟩

theorem spaced_body (d : Dialect) (p : Plan) : Spaced (body d p) :=
  spaced_follow (spaced_fromClause d p) (spaced_whereClause d p).1 (spaced_whereClause d p).2

theorem spaced_orderItem (p : Plan) {o : SortOrder} (plain : o.direction ≠ .computed) :
    Spaced (orderItem p o) := by
  unfold orderItem
  cases direction : o.direction with
  | computed => exact absurd direction plain
  | ascending =>
    exact spaced_require fun s => spaced_follow (spaced_column s o.property) (fun n => rfl) fun n => rfl
  | descending =>
    exact spaced_require fun s => spaced_follow (spaced_column s o.property) (fun n => rfl) fun n => rfl

theorem spaced_orderClause (p : Plan) {orders : List SortOrder}
    (plain : ∀ o ∈ orders, o.direction ≠ .computed) :
    Spaced (orderClause p orders) ∧ Opens (orderClause p orders) := by
  unfold orderClause
  split
  · exact ⟨fun n => rfl, fun n => rfl⟩
  · refine ⟨spaced_lead rfl rfl ?_, opens_lead rfl⟩
    exact spaced_separated rfl rfl rfl fun o member => spaced_orderItem p (plain o member)

theorem spaced_intercalate {t : Token} {sep : List Token} (delimiter : delimits t = true)
    (between : spaced (t :: sep) = true) (closed : (t :: sep).getLast?.all delimits = true)
    {xs : List (List Token)} (kept : ∀ x ∈ xs, spaced x = true) :
    spaced ((t :: sep).intercalate xs) = true := by
  induction xs with
  | nil => rfl
  | cons x rest ih =>
    have own := kept x (by simp)
    have others := ih fun y member => kept y (by simp [member])
    cases rest with
    | nil => rwa [List.intercalate_singleton]
    | cons y rest =>
      rw [List.intercalate_cons_cons, List.append_assoc]
      exact spaced_append own (spaced_append between others (.inl closed)) (.inr delimiter)

theorem spaced_columnList (d : Dialect) (p : Plan) : spaced (columnList d p) = true := by
  apply spaced_intercalate rfl rfl rfl
  intro item member
  obtain ⟨s, -, columns⟩ := List.mem_flatMap.mp member
  obtain ⟨c, -, rfl⟩ := List.mem_map.mp columns
  cases d <;> rfl

/-- Orders by columns alone, none of them taken over as it stands. -/
def Request.uncomputed : Request → Prop
  | .select orders => ∀ o ∈ orders, o.direction ≠ .computed
  | .count => True

theorem spaced_statement (d : Dialect) (p : Plan) {request : Request} (plain : request.uncomputed) :
    Spaced (statement d p request) := by
  cases request with
  | select orders =>
    obtain ⟨order, open_order⟩ := spaced_orderClause p plain
    refine spaced_follow (spaced_lead ?_ ?_ (spaced_body d p)) order open_order
    · have lead : spaced [Token.select, Token.space] = true := rfl
      have front := spaced_append lead (spaced_columnList d p) (.inl rfl)
      exact spaced_append front rfl (.inr rfl)
    · rw [List.getLast?_append]
      rfl
  | count => exact spaced_lead rfl rfl (spaced_body d p)

def Token.unnamed : Token → Token
  | .ident _ => .ident ""
  | t => t

def Lexeme.unnamed : Lexeme → Lexeme
  | .name _ => .name ""
  | l => l

def Token.name? : Token → Option String
  | .ident text => some text
  | _ => none

def Lexeme.name? : Lexeme → Option String
  | .name text => some text
  | _ => none

theorem spaced_unnamed (ts : List Token) : spaced (ts.map Token.unnamed) = spaced ts := by
  have same (t : Token) : known t.unnamed = known t ∧ delimits t.unnamed = delimits t := by
    cases t <;> exact ⟨rfl, rfl⟩
  induction ts with
  | nil => rfl
  | cons t rest ih =>
    have start : opens (rest.map Token.unnamed) = opens rest := by
      cases rest with
      | nil => rfl
      | cons t' rest => exact (same t').2
    rw [List.map_cons, spaced, spaced, ih, start, (same t).1, (same t).2]

theorem placeholders_unnamed (ts : List Token) :
    placeholders (ts.map Token.unnamed) = placeholders ts := by
  unfold placeholders
  rw [List.filterMap_map]
  congr 1
  funext t
  cases t <;> rfl

theorem phrase_nameless (text : List Char) (l : Lexeme) (member : l ∈ Lexeme.phrase text) :
    l.name? = none ∧ l.unnamed = l := by
  obtain ⟨run, -, made⟩ := List.mem_filterMap.mp member
  split at made
  · cases made
  · split at made
    · cases made
      exact ⟨rfl, rfl⟩
    · cases made
      exact ⟨rfl, rfl⟩

/-- A name is one lexeme, and no other token has a name in its text. -/
theorem lexemes_names (d : Dialect) (t : Token) :
    (t.lexemes d).filterMap Lexeme.name? = t.name?.toList := by
  have fixed (text : List Char) : (Lexeme.phrase text).filterMap Lexeme.name? = [] :=
    List.filterMap_eq_nil_iff.mpr fun l member => (phrase_nameless text l member).1
  cases t with
  | ident text => rfl
  | string | int | param => rfl
  | symbol s => cases s <;> rfl
  | keyword | fullOuterJoin | function | raw => exact fixed _

theorem lexemes_unnamed (d : Dialect) (t : Token) :
    (t.lexemes d).map Lexeme.unnamed = t.unnamed.lexemes d := by
  have fixed (text : List Char) : (Lexeme.phrase text).map Lexeme.unnamed = Lexeme.phrase text :=
    (List.map_congr_left fun l member => (phrase_nameless text l member).2).trans (List.map_id _)
  cases t with
  | ident text => rfl
  | string | int | param => rfl
  | symbol s => cases s <;> rfl
  | keyword | fullOuterJoin | function | raw => exact fixed _

theorem flatMap_lexemes_unnamed (d : Dialect) (ts : List Token) :
    (ts.flatMap (Token.lexemes d)).map Lexeme.unnamed =
      (ts.map Token.unnamed).flatMap (Token.lexemes d) := by
  rw [List.map_flatMap, List.flatMap_map]
  congr 1
  funext t
  exact lexemes_unnamed d t

theorem scan_serialize {d : Dialect} {ts : List Token} (well : spaced ts = true)
    (counted : placeholders ts = List.range' 1 (placeholders ts).length) :
    Lexeme.scan d (serialize d ts) = some (ts.flatMap (Token.lexemes d)) := by
  have read : Scans d 0 _ _ := scans_spaced well counted
  unfold Lexeme.scan serialize
  rw [String.toList_ofList]
  exact read _ (Nat.lt_succ_self _)

/-- A statement is scanned back into the lexemes of its tokens. Its structure does not depend on
    the names in it, which come back as they were given. -/
theorem statement_scanned {d : Dialect} {members : List Member} {request : Request} {q : Query}
    (plain : request.uncomputed) (complete : (compile d members request q).failure = none) :
    let query := (compile d members request q).query
    let lexemes := query.tokens.flatMap (Token.lexemes d)
    Lexeme.scan d query.sql = some lexemes ∧
      lexemes.filterMap Lexeme.name? = query.tokens.filterMap Token.name? ∧
      ∀ ts, ts.map Token.unnamed = query.tokens.map Token.unnamed →
        Lexeme.scan d (serialize d ts) = some (ts.flatMap (Token.lexemes d)) ∧
          (ts.flatMap (Token.lexemes d)).map Lexeme.unnamed = lexemes.map Lexeme.unnamed := by
  intro query lexemes
  obtain ⟨p, accepted⟩ := accepted_of_complete complete
  obtain ⟨sameTokens, -, -⟩ := compile_accepted accepted d request q
  have well : spaced query.tokens = true := by
    rw [show query.tokens = _ from sameTokens]
    exact spaced_statement d p plain 0
  have counted : placeholders query.tokens = List.range' 1 (placeholders query.tokens).length := by
    have numbered := numbered_statement d p request 0
    rw [show query.tokens = _ from sameTokens, numbered, List.length_range']
  refine ⟨?_, ?_, ?_⟩
  · rw [show query.sql = _ from compile_sql complete]
    exact scan_serialize well counted
  · have each : (fun t => (Token.lexemes d t).filterMap Lexeme.name?) = fun t => t.name?.toList :=
      funext (lexemes_names d)
    rw [List.filterMap_flatMap, each, ← List.filterMap_eq_flatMap_toList]
  · intro ts renamed
    -- neither spacing nor numbering looks at names, so another statement of this shape has both
    have well' : spaced ts = true := by
      rw [← spaced_unnamed, renamed, spaced_unnamed, well]
    have counted' : placeholders ts = List.range' 1 (placeholders ts).length := by
      rw [← placeholders_unnamed, renamed, placeholders_unnamed]
      exact counted
    refine ⟨scan_serialize well' counted', ?_⟩
    rw [flatMap_lexemes_unnamed, flatMap_lexemes_unnamed, renamed]

def Sample.quotedBooks : Member :=
  { Sample.books with
    mapping := {
      table := "books] WHERE 1=1 --"
      columns := [⟨"id", "id\" OR '1'='1", .integer, true⟩, ⟨"author", "", .integer, false⟩,
        ⟨"place", "]]", .blob, false⟩]
      table_ne := by decide
      columns_ne := by decide
      properties_nodup := by decide
      names_nodup := by decide } }

theorem statement_scanned_sample :
    let request := Request.select [⟨"books", "id", .descending⟩]
    let query := (compile .tsql [Sample.authors, Sample.quotedBooks] request default).query
    let lexemes := query.tokens.flatMap (Token.lexemes .tsql)
    Lexeme.scan .tsql query.sql = some lexemes ∧
      lexemes.filterMap Lexeme.name? = query.tokens.filterMap Token.name? := by
  intro request query lexemes
  have plain : request.uncomputed := by
    intro o member
    rw [List.mem_singleton.mp member]
    decide
  have complete : (compile .tsql [Sample.authors, Sample.quotedBooks] request default).failure = none := by
    rfl
  have scanned := statement_scanned plain complete
  exact ⟨scanned.1, scanned.2.1⟩

end Joinery.Sql
