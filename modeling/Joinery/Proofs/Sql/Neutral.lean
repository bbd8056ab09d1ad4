import Joinery.Proofs.Sql.Emission
import Joinery.Proofs.Sql.Reader

/-!
Statements without what is a dialect's own. The columns of the list lose the names that
they are given, and from FROM on one piece stands for each containment, whatever words the
dialect has for it. All other words stay as they are, spaces included.
-/
namespace Joinery.Sql
open Reader (after after_append)

structure Site where
  letter : String
  name : String
  param : Nat
deriving DecidableEq, Repr

inductive Piece where
  | token (t : Token)
  | within (site : Site) (positive : Bool)
deriving DecidableEq, Repr

namespace Site

def column : Reader (String × String)
  | .ident letter :: .symbol .dot :: .ident name :: rest => some ((letter, name), rest)
  | _ => none

def parameter : Reader Nat
  | .param k :: rest => some (k, rest)
  | _ => none

def afterReference : List Token → List Token
  | .symbol .comma :: .symbol .space :: .int _ :: rest => rest
  | rest => rest

def call (contains build : String) : Reader Site := fun ts => do
  let ts ← after [.function contains, Token.lparen] ts
  let (c, ts) ← column ts
  let ts ← after [Token.comma, Token.space, .function build, Token.lparen] ts
  let (k, ts) ← parameter ts
  let ts ← after [Token.rparen, Token.rparen] (afterReference ts)
  return (⟨c.1, c.2, k⟩, ts)

def method : Reader Site := fun ts => do
  let (c, ts) ← column ts
  let ts ← after [Token.dot, .raw "STWithin", Token.lparen, .raw "geometry::STGeomFromText",
    Token.lparen] ts
  let (k, ts) ← parameter ts
  let ts ← after [Token.rparen, Token.rparen, Token.space, Token.eq, Token.space, .int 1]
    (afterReference ts)
  return (⟨c.1, c.2, k⟩, ts)

def template (d : Dialect) : Reader Site := fun ts =>
  match d with
  | .ansi => none
  | .sqlite => none
  | .postgres => call "ST_Within" "ST_GeomFromText" ts
  | .mysql => call "ST_Within" "ST_GeomFromText" ts
  | .duckdb => call "ST_Within" "ST_GeomFromText" ts
  | .tsql => method ts
  | .oracle => do
    let (site, ts) ← call "SDO_INSIDE" "SDO_GEOMETRY" ts
    let ts ← after [Token.space, Token.eq, Token.space, .string "TRUE"] ts
    return (site, ts)

def read (d : Dialect) : Reader Piece := fun ts =>
  match after [Token.not, Token.space, Token.lparen] ts with
  | some inner => do
    let (site, ts) ← template d inner
    let ts ← after [Token.rparen] ts
    return (.within site false, ts)
  | none => (template d ts).map fun r => (.within r.1 true, r.2)

end Site

/-- The pieces of a statement from left to right, when so many words are still to be
    passed over. -/
def pieces (d : Dialect) : Nat → List Token → List Piece
  | _, [] => []
  | skip + 1, _ :: rest => pieces d skip rest
  | 0, t :: rest =>
    match Site.read d (t :: rest) with
    | some (piece, others) => piece :: pieces d (rest.length - others.length) rest
    | none => .token t :: pieces d 0 rest

def unaliased : List Token → List Token
  | .symbol .dot :: .ident c :: .symbol .space :: .keyword .named :: .symbol .space :: .ident _
      :: rest => Token.dot :: .ident c :: unaliased rest
  | .symbol .dot :: .ident c :: .symbol .space :: .ident _ :: rest =>
    Token.dot :: .ident c :: unaliased rest
  | t :: rest => t :: unaliased rest
  | [] => []

def neutralForm (d : Dialect) (ts : List Token) : List Piece :=
  (unaliased (ts.takeWhile fun t => t ≠ Token.source)).map .token
    ++ pieces d 0 (ts.dropWhile fun t => t ≠ Token.source)

variable {d : Dialect}

theorem pieces_skip (d : Dialect) (ts rest : List Token) :
    pieces d ts.length (ts ++ rest) = pieces d 0 rest := by
  induction ts with
  | nil => rfl
  | cons t ts ih => exact ih

theorem pieces_site {ts rest : List Token} {piece : Piece} (some_word : ts ≠ [])
    (found : Site.read d (ts ++ rest) = some (piece, rest)) :
    pieces d 0 (ts ++ rest) = piece :: pieces d 0 rest := by
  obtain ⟨t, us, rfl⟩ := List.exists_cons_of_ne_nil some_word
  rw [List.cons_append] at found ⊢
  have passed : (us ++ rest).length - rest.length = us.length := by simp
  rw [pieces, found]
  dsimp only
  rw [passed, pieces_skip]

theorem pieces_token {t : Token} {rest : List Token} (other : Site.read d (t :: rest) = none) :
    pieces d 0 (t :: rest) = .token t :: pieces d 0 rest := by
  rw [pieces, other]

theorem after_ne {e t : Token} (differ : t ≠ e) (expected rest : List Token) :
    after (e :: expected) (t :: rest) = none := by
  rw [after, if_neg differ]

section
variable {t : Token} (call : ∀ name, t ≠ .function name) (ident : ∀ name, t ≠ .ident name)
include call ident

theorem template_other (rest : List Token) : Site.template d (t :: rest) = none := by
  have no_column : Site.column (t :: rest) = none := by
    unfold Site.column
    split
    · rename_i same
      exact absurd (List.cons.inj same).1 (ident _)
    · rfl
  cases d <;> simp [Site.template, Site.call, Site.method, after_ne (call _), no_column]

theorem read_other (not : t ≠ Token.not) (rest : List Token) : Site.read d (t :: rest) = none := by
  simp [Site.read, after_ne not, template_other call ident]

end

theorem read_name {name : String} {rest : List Token}
    (no_method : Site.method (.ident name :: rest) = none) :
    Site.read d (.ident name :: rest) = none := by
  have no_call (contains build : String) : Site.call contains build (.ident name :: rest) = none := by
    simp [Site.call, after]
  have no_template : Site.template d (.ident name :: rest) = none := by
    cases d <;> simp [Site.template, no_method, no_call]
  simp [Site.read, after, Token.not, no_template]

section
variable {rest : List Token} (apart : rest.head? ≠ some Token.dot)
include apart

theorem read_ident (name : String) : Site.read d (.ident name :: rest) = none := by
  apply read_name
  cases rest with
  | nil => rfl
  | cons t rest =>
    have no_dot : t ≠ Token.dot := fun same => apart (congrArg some same)
    have no_column : Site.column (.ident name :: t :: rest) = none := by
      unfold Site.column
      split
      · rename_i same
        cases same
        exact absurd rfl no_dot
      · rfl
    simp [Site.method, no_column]

theorem read_qualified (letter name : String) :
    Site.read d (Token.qualified letter name ++ rest) = none := by
  apply read_name
  have no_dot : after [Token.dot, .raw "STWithin", Token.lparen,
      .raw "geometry::STGeomFromText", Token.lparen] rest = none := by
    cases rest with
    | nil => rfl
    | cons t rest => exact after_ne (fun same => apart (congrArg some same)) _ _
  have found : Site.column (.ident letter :: Token.dot :: .ident name :: rest) =
      some ((letter, name), rest) := rfl
  change Site.method (.ident letter :: Token.dot :: .ident name :: rest) = none
  simp [Site.method, found, no_dot]

end

/-- The dialect can write these words, and they are read as these pieces if no dot follows,
    which could make a method of the last column. -/
structure Spelt (d : Dialect) (ts : List Token) (ps : List Piece) : Prop where
  start : ts.head? ≠ some Token.dot
  read : ∀ rest, rest.head? ≠ some Token.dot → pieces d 0 (ts ++ rest) = ps ++ pieces d 0 rest
  joins : d.fullOuterJoin? = none → Token.fullOuterJoin ∉ ts

theorem spelt_nil (d : Dialect) : Spelt d [] [] where
  start := by simp
  read _ _ := rfl
  joins _ := by simp

theorem spelt_append {ts us : List Token} {ps qs : List Piece} (first : Spelt d ts ps)
    (second : Spelt d us qs) : Spelt d (ts ++ us) (ps ++ qs) where
  start := by
    cases ts with
    | nil => exact second.start
    | cons t ts => exact first.start
  read rest apart := by
    have between : (us ++ rest).head? ≠ some Token.dot := by
      cases us with
      | nil => exact apart
      | cons u us => exact second.start
    rw [List.append_assoc, first.read _ between, second.read _ apart, List.append_assoc]
  joins lacking := by
    rw [List.mem_append]
    rintro (inside | inside)
    · exact first.joins lacking inside
    · exact second.joins lacking inside

def Verbatim (ts : List Token) : Prop := ∀ d, Spelt d ts (ts.map .token)

theorem verbatim_append {ts us : List Token} (first : Verbatim ts) (second : Verbatim us) :
    Verbatim (ts ++ us) := by
  intro d
  rw [List.map_append]
  exact spelt_append (first d) (second d)

/-- The words that a containment neither begins with nor goes on with after its column. -/
def inert : Token → Bool
  | .function _ | .keyword .not | .ident _ | .symbol .dot | .fullOuterJoin => false
  | _ => true

theorem read_inert {t : Token} (quiet : inert t = true) (rest : List Token) :
    Site.read d (t :: rest) = none := by
  apply read_other
  · rintro name rfl
    cases quiet
  · rintro name rfl
    cases quiet
  · rintro rfl
    cases quiet

theorem pieces_inert {ts : List Token} (quiet : ts.all inert = true) (rest : List Token) :
    pieces d 0 (ts ++ rest) = ts.map .token ++ pieces d 0 rest := by
  induction ts with
  | nil => rfl
  | cons t ts ih =>
    rw [List.all_cons, Bool.and_eq_true] at quiet
    rw [List.cons_append, pieces_token (read_inert quiet.1 _), ih quiet.2]
    rfl

theorem verbatim_inert {ts : List Token} (quiet : ts.all inert = true) : Verbatim ts := by
  have other {t : Token} (loud : inert t = false) : t ∉ ts := by
    intro inside
    rw [List.all_eq_true.mp quiet t inside] at loud
    cases loud
  intro d
  constructor
  · intro start
    exact other rfl (List.mem_of_head? start)
  · exact fun rest _ => pieces_inert quiet rest
  · exact fun _ => other rfl

theorem verbatim_ident (name : String) : Verbatim [.ident name] := by
  intro d
  constructor
  · simp [Token.dot]
  · exact fun rest apart => pieces_token (read_ident apart name)
  · simp

theorem verbatim_qualified (letter name : String) : Verbatim (Token.qualified letter name) := by
  intro d
  constructor
  · simp [Token.qualified, Token.dot]
  · intro rest apart
    have dotted : Site.read d (Token.dot :: .ident name :: rest) = none :=
      read_other (by simp [Token.dot]) (by simp [Token.dot]) (by decide) _
    calc pieces d 0 (Token.qualified letter name ++ rest)
        = .token (.ident letter) :: pieces d 0 (Token.dot :: .ident name :: rest) :=
          pieces_token (read_qualified apart letter name)
      _ = .token (.ident letter) :: .token Token.dot :: pieces d 0 (.ident name :: rest) := by
          rw [pieces_token dotted]
      _ = (Token.qualified letter name).map .token ++ pieces d 0 rest := by
          rw [pieces_token (read_ident apart name)]
          rfl
  · simp [Token.qualified, Token.dot]

theorem verbatim_outside : Verbatim [Token.not, Token.space, Token.among] := by
  intro d
  have not_site (rest : List Token) :
      Site.read d (Token.not :: Token.space :: Token.among :: rest) = none := by
    have no_template : Site.template d (Token.not :: Token.space :: Token.among :: rest) = none :=
      template_other (by simp [Token.not]) (by simp [Token.not]) _
    have unbracketed : after [Token.not, Token.space, Token.lparen]
        (Token.not :: Token.space :: Token.among :: rest) = none := by
      simp [after, Token.among, Token.lparen]
    simp only [Site.read, unbracketed, no_template, Option.map_none]
  constructor
  · decide
  · intro rest _
    have others : pieces d 0 ([Token.space, Token.among] ++ rest) = _ := pieces_inert rfl rest
    exact (pieces_token (not_site rest)).trans (congrArg (.token Token.not :: ·) others)
  · intro _
    decide

theorem spelt_fullOuterJoin {keyword : String} (has : d.fullOuterJoin? = some keyword) :
    Spelt d [.fullOuterJoin] [.token .fullOuterJoin] where
  start := by decide
  read rest _ := pieces_token (read_other (by simp) (by simp) (by decide) rest)
  joins lacking := by
    rw [has] at lacking
    cases lacking

section Template
variable {letter name : String} {srid : Option Int64} {t : List Token × List Token}

theorem site_call (contains build letter name : String) (k : Nat) (srid : Option Int64)
    (rest : List Token) :
    Site.call contains build ([.function contains, Token.lparen] ++ Token.qualified letter name
        ++ [Token.comma, Token.space, .function build, Token.lparen] ++ .param k :: reference srid
        ++ Token.rparen :: Token.rparen :: rest) = some (⟨letter, name, k⟩, rest) := by
  cases srid <;>
    simp [Site.call, after, Site.column, Site.parameter, Site.afterReference, reference,
      Token.qualified, Token.lparen, Token.rparen, Token.comma, Token.dot, Token.space]

theorem site_method (letter name : String) (k : Nat) (srid : Int64) (rest : List Token) :
    Site.method (Token.qualified letter name ++ [Token.dot, .raw "STWithin", Token.lparen,
        .raw "geometry::STGeomFromText", Token.lparen] ++ .param k :: reference (some srid)
        ++ [Token.rparen, Token.rparen, Token.space, Token.eq, Token.space, .int 1] ++ rest) =
      some (⟨letter, name, k⟩, rest) := by
  simp [Site.method, after, Site.column, Site.parameter, Site.afterReference, reference,
    Token.qualified, Token.lparen, Token.rparen, Token.comma, Token.dot, Token.space, Token.eq]

theorem site_template (found : template? d (Token.qualified letter name) srid = some t) (k : Nat)
    (rest : List Token) :
    Site.template d (t.1 ++ .param k :: t.2 ++ rest) = some (⟨letter, name, k⟩, rest) := by
  have called (contains build : String) (srid : Option Int64) (rest : List Token) :=
    site_call contains build letter name k srid rest
  cases d with
  | ansi => cases found
  | sqlite => cases found
  | postgres =>
    cases found
    simpa [Site.template] using called "ST_Within" "ST_GeomFromText" srid rest
  | mysql =>
    cases found
    simpa [Site.template] using called "ST_Within" "ST_GeomFromText" srid rest
  | duckdb =>
    cases found
    simpa [Site.template, reference] using called "ST_Within" "ST_GeomFromText" none rest
  | tsql =>
    cases found
    simpa [Site.template] using site_method letter name k (srid.getD 0) rest
  | oracle =>
    cases found
    have inner := called "SDO_INSIDE" "SDO_GEOMETRY" srid
      ([Token.space, Token.eq, Token.space, .string "TRUE"] ++ rest)
    simp only [List.append_assoc, List.cons_append, List.nil_append] at inner
    simp only [Site.template, List.append_assoc, List.cons_append, List.nil_append, inner]
    simp [after]

theorem template_start (found : template? d (Token.qualified letter name) srid = some t) :
    ∃ first others, t.1 = first :: others ∧ first ≠ Token.not ∧ first ≠ Token.dot := by
  cases d <;> cases found <;> exact ⟨_, _, rfl, by simp [Token.not], by simp [Token.dot]⟩

theorem site_read (found : template? d (Token.qualified letter name) srid = some t)
    (positive : Bool) (k : Nat) (rest : List Token) :
    Site.read d ((negatable positive t).1 ++ .param k :: (negatable positive t).2 ++ rest) =
      some (.within ⟨letter, name, k⟩ positive, rest) := by
  cases positive with
  | false =>
    have inner := site_template found k (Token.rparen :: rest)
    simp only [List.append_assoc, List.cons_append] at inner
    simp [Site.read, negatable, after, inner]
  | true =>
    have inner := site_template found k rest
    obtain ⟨first, others, shape, no_not, -⟩ := template_start found
    have unnegated (us : List Token) : after [Token.not, Token.space, Token.lparen] (t.1 ++ us) = none := by
      rw [shape]
      exact after_ne no_not _ _
    simp only [List.append_assoc, List.cons_append] at inner
    simp [Site.read, negatable, unnegated, inner]

theorem spelt_template (found : template? d (Token.qualified letter name) srid = some t)
    (positive : Bool) (k : Nat) :
    Spelt d ((negatable positive t).1 ++ .param k :: (negatable positive t).2)
      [.within ⟨letter, name, k⟩ positive] := by
  obtain ⟨first, others, shape, -, no_dot⟩ := template_start found
  constructor
  · cases positive with
    | false => simp [negatable, Token.not, Token.dot]
    | true => simpa [negatable, shape] using no_dot
  · intro rest _
    exact pieces_site (by simp) (site_read found positive k rest)
  · intro _ inside
    obtain ⟨lead, tail⟩ := negatable_fixed positive (template_fixed rfl found)
    rcases List.mem_append.mp inside with front | back
    · cases List.all_eq_true.mp lead _ front
    · rcases List.mem_cons.mp back with same | back
      · cases same
      · cases List.all_eq_true.mp tail _ back

end Template

theorem unaliased_selectItem (d : Dialect) (s : Seat) (c : Column) {ts : List Token}
    (apart : ts = [Token.space] ∨ ∃ us, ts = Token.comma :: us) :
    unaliased (selectItem d s c ++ ts) = selectItem .ansi s c ++ unaliased ts := by
  rcases apart with rfl | ⟨us, rfl⟩ <;> cases d <;> rfl

theorem unaliased_columnList (d : Dialect) (p : Plan) :
    unaliased (columnList d p ++ [Token.space]) = columnList .ansi p ++ [Token.space] := by
  have items (d : Dialect) : selectItems d p =
      (p.seats.flatMap fun s => s.member.mapping.columns.map (s, ·)).map
        fun x => selectItem d x.1 x.2 := by
    simp only [selectItems, List.map_flatMap, List.map_map, Function.comp_def]
  unfold columnList
  rw [items, items]
  induction p.seats.flatMap fun s => s.member.mapping.columns.map (s, ·) with
  | nil => rfl
  | cons x xs ih =>
    cases xs with
    | nil =>
      have last : unaliased [Token.space] = [Token.space] := rfl
      simpa [last] using unaliased_selectItem d x.1 x.2 (.inl rfl)
    | cons y ys =>
      have between (us : List Token) : unaliased (Token.comma :: Token.space :: us) =
          Token.comma :: Token.space :: unaliased us := rfl
      simp only [List.map_cons, List.intercalate_cons_cons, List.append_assoc, List.cons_append,
        List.nil_append] at ih ⊢
      rw [unaliased_selectItem d x.1 x.2 (.inr ⟨_, rfl⟩), between, ih]

theorem neutralForm_append {lead us : List Token} (apart : Token.source ∉ lead) :
    neutralForm d (lead ++ Token.source :: us) =
      (unaliased lead).map .token ++ pieces d 0 (Token.source :: us) := by
  have inside : ∀ t ∈ lead, decide (t ≠ Token.source) = true := by
    intro t member
    apply decide_eq_true
    rintro rfl
    exact apart member
  unfold neutralForm
  rw [List.takeWhile_append_of_pos inside, List.dropWhile_append_of_pos inside]
  simp

end Joinery.Sql
