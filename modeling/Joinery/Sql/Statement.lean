import Joinery.Criteria.Sort
import Joinery.Sql.Condition

/-!
Whole statements: one that selects every mapped column of every store and one that
counts rows. Both share everything from the table list to the filter; parameters
are bound in the order of emission.
-/
namespace Joinery.Sql
open Emission

def columnPrefix (d : Dialect) (s : Seat) : String :=
  s.letter ++ if d.aliasesColumns then "_" else "."

def columnAlias (d : Dialect) (s : Seat) (c : Column) : List Token :=
  if d.aliasesColumns then
    [Token.space] ++ (if d.marksAliases then [Token.named, Token.space] else [])
      ++ [.ident (s.letter ++ "_" ++ c.name)]
  else []

def selectItem (d : Dialect) (s : Seat) (c : Column) : List Token :=
  s.qualified c ++ columnAlias d s c

def selectItems (d : Dialect) (p : Plan) : List (List Token) :=
  p.seats.flatMap fun s => s.member.mapping.columns.map (selectItem d s)

def columnList (d : Dialect) (p : Plan) : List Token :=
  [Token.comma, Token.space].intercalate (selectItems d p)

def table (s : Seat) : List Token :=
  [.ident s.member.mapping.table, Token.space, .ident s.letter]

def joinKeywords (d : Dialect) (aliasName : String) : JoinType → Emission
  | .inner => tokens [.keyword .inner, Token.space, Token.join]
  | .leftOuter =>
    tokens [.keyword .left, Token.space, .keyword .outer, Token.space, Token.join]
  | .rightOuter =>
    tokens [.keyword .right, Token.space, .keyword .outer, Token.space, Token.join]
  | .fullOuter =>
    match d.fullOuterJoin? with
    | none => fail (.unsupported d (.fullOuterJoin aliasName))
    | some _ => tokens [.fullOuterJoin]

def joinClause (d : Dialect) (p : Plan) (s : Seat) : Emission :=
  match s.member.joinType with
  | none => fail (.configuration (.joinTypeMissing s.member.aliasName))
  | some type =>
    tokens [Token.space] ++ joinKeywords d s.member.aliasName type
      ++ tokens ([Token.space] ++ table s ++ [Token.space, Token.on, Token.space])
      ++ separated (between s.member.connective)
        (s.member.on.map fun e => foundAt (.joinExpression e) (joinExpression p s e))

def fromClause (d : Dialect) (p : Plan) : Emission :=
  match p.seats with
  | [] => nothing
  | first :: rest =>
    tokens ([Token.source, Token.space] ++ table first) ++ concat (rest.map (joinClause d p))

def filtered (p : Plan) : List (Seat × Criteria) :=
  p.seats.filterMap fun s =>
    match s.member.criteria with
    | some c => if c.filters then some (s, c) else none
    | none => none

def filterClause (d : Dialect) (p : Plan) (lead : Token) (part : Seat × Criteria) : Emission :=
  tokens [Token.space, lead, Token.space]
    ++ parenthesized
      (foundAt (.criteriaOf part.1.member.aliasName) (criteria d p part.1 part.2))

def whereClause (d : Dialect) (p : Plan) : Emission :=
  match filtered p with
  | [] => nothing
  | first :: rest =>
    filterClause d p Token.filter first ++ concat (rest.map (filterClause d p Token.and))

def orderItem (p : Plan) (o : SortOrder) : Emission :=
  match o.direction with
  | .computed => tokens [.raw o.property]
  | .ascending =>
    require (p.resolve o.aliasName) fun s =>
      column s o.property ++ tokens [Token.space, .keyword .asc]
  | .descending =>
    require (p.resolve o.aliasName) fun s =>
      column s o.property ++ tokens [Token.space, .keyword .desc]

def orderClause (p : Plan) (orders : List SortOrder) : Emission :=
  if orders.isEmpty then nothing
  else
    tokens [Token.space, Token.orderBy, Token.space]
      ++ separated [Token.comma, Token.space] (orders.map (orderItem p))

def body (d : Dialect) (p : Plan) : Emission := fromClause d p ++ whereClause d p

def selectStatement (d : Dialect) (p : Plan) (orders : List SortOrder) : Emission :=
  tokens ([Token.select, Token.space] ++ columnList d p ++ [Token.space])
    ++ body d p ++ orderClause p orders

def countStatement (d : Dialect) (p : Plan) : Emission :=
  tokens [Token.select, Token.space, .keyword .count, Token.lparen, Token.star,
      Token.rparen, Token.space]
    ++ body d p

def prefixes (d : Dialect) (p : Plan) : List String := p.seats.map (columnPrefix d)

structure Compiled where
  query : Query
  failure : Option Error

def Plan.select (p : Plan) (d : Dialect) (orders : List SortOrder) (q : Query) : Compiled :=
  let f := selectStatement d p orders 0
  ⟨q.clear.append d (prefixes d p) f, f.failure⟩

def Plan.count (p : Plan) (d : Dialect) (q : Query) : Compiled :=
  let f := countStatement d p 0
  ⟨q.clear.append d [] f, f.failure⟩

inductive Request where
  | select (orders : List SortOrder)
  | count

/-- Compiles into a query. Stores of the wrong shape leave the query as it is. -/
def compile (d : Dialect) (members : List Member) (request : Request) (q : Query) : Compiled :=
  match Plan.ofMembers members with
  | .error fault => ⟨q, some (.configuration fault)⟩
  | .ok p =>
    match request with
    | .select orders => p.select d orders q
    | .count => p.count d q

def compileDrafts (d : Dialect) (drafts : List Draft) (request : Request) (q : Query) :
    Compiled :=
  match members drafts with
  | .error fault => ⟨q, some (.configuration fault)⟩
  | .ok ms => compile d ms request q

end Joinery.Sql
