import Joinery.Proofs.Criteria.Truth
import Joinery.Sql.Token

/-!
Conditions read from their words, spaces aside. NOT binds tighter than AND, and AND
tighter than OR. Comparisons, memberships and null tests are atoms, and so is the
containment template of the dialect. A condition that was read is evaluated on a row
with the parameters of its statement.
-/
namespace Joinery.Sql

inductive Comparator where
  | eq | ne | lt | gt | le | ge
deriving DecidableEq, Repr

def Comparator.ofSymbol? : Symbol → Option Comparator
  | .eq => some .eq
  | .ne => some .ne
  | .lt => some .lt
  | .gt => some .gt
  | .le => some .le
  | .ge => some .ge
  | _ => none

def Comparator.accepts : Comparator → Ordering → Bool
  | .eq => Ordering.isEq
  | .ne => Ordering.isNe
  | .lt => Ordering.isLT
  | .gt => Ordering.isGT
  | .le => Ordering.isLE
  | .ge => Ordering.isGE

inductive Operand where
  | column (letter name : String)
  | param (k : Nat)
  | int (n : Int64)
deriving DecidableEq, Repr

inductive Condition where
  | compare (c : Comparator) (left right : Operand)
  | among (x : Operand) (items : List Operand) (positive : Bool)
  | nullTest (x : Operand) (positive : Bool)
  | within (x shape : Operand) (srid : Option Int64)
  | not (c : Condition)
  | binary (connective : Connective) (left right : Condition)

def Operand.value (w : World) (params : List Value) : Operand → Value
  | .column letter name => w.cell letter name
  | .param k => params[k - 1]?.getD .null
  | .int n => .integer n

def Condition.eval (w : World) (params : List Value) : Condition → Truth
  | .compare c left right => w.test c.accepts (left.value w params) (right.value w params)
  | .among x items positive =>
    .signed positive (w.oneOf (x.value w params) (items.map (Operand.value w params)))
  | .nullTest x positive => .signed positive (.ofBool (x.value w params).isNull)
  | .within x shape srid => w.inside (x.value w params) (shape.value w params) srid
  | .not c => (c.eval w params).not
  | .binary connective left right =>
    connective.combine (left.eval w params) (right.eval w params)

def isSpace : Token → Bool
  | .symbol .space => true
  | _ => false

def words (ts : List Token) : List Token := ts.filter fun t => !isSpace t

@[simp] theorem words_append (ts us : List Token) : words (ts ++ us) = words ts ++ words us :=
  List.filter_append ..

abbrev Reader (α : Type) := List Token → Option (α × List Token)

namespace Reader

def after : List Token → List Token → Option (List Token)
  | [], ts => some ts
  | _ :: _, [] => none
  | e :: expected, t :: ts => if t = e then after expected ts else none

theorem after_append (expected ts : List Token) : after expected (expected ++ ts) = some ts := by
  induction expected with
  | nil => rfl
  | cons e expected ih =>
    rw [List.cons_append, after, if_pos rfl]
    exact ih

def operand : Reader Operand
  | .ident letter :: .symbol .dot :: .ident name :: rest => some (.column letter name, rest)
  | .param k :: rest => some (.param k, rest)
  | .int n :: rest => some (.int n, rest)
  | _ => none

def listed : Reader (List Operand)
  | .param k :: .symbol .comma :: rest => (listed rest).map fun r => (.param k :: r.1, r.2)
  | .param k :: .symbol .rparen :: rest => some ([.param k], rest)
  | _ => none

def predicate : Reader Condition := fun ts =>
  match operand ts with
  | some (x, .keyword .isNull :: rest) => some (.nullTest x true, rest)
  | some (x, .keyword .isNotNull :: rest) => some (.nullTest x false, rest)
  | some (x, .keyword .among :: .symbol .lparen :: rest) =>
    (listed rest).map fun r => (.among x r.1 true, r.2)
  | some (x, .keyword .not :: .keyword .among :: .symbol .lparen :: rest) =>
    (listed rest).map fun r => (.among x r.1 false, r.2)
  | some (x, .symbol s :: rest) =>
    (Comparator.ofSymbol? s).bind fun c =>
      (operand rest).map fun r => (.compare c x r.1, r.2)
  | _ => none

def reference : List Token → Option Int64 × List Token
  | .symbol .comma :: .int n :: rest => (some n, rest)
  | rest => (none, rest)

def call (contains build : String) : Reader Condition := fun ts => do
  let ts ← after [.function contains, Token.lparen] ts
  let (x, ts) ← operand ts
  let ts ← after [Token.comma, .function build, Token.lparen] ts
  let (shape, ts) ← operand ts
  let (srid, ts) := reference ts
  let ts ← after [Token.rparen, Token.rparen] ts
  return (.within x shape srid, ts)

def method : Reader Condition := fun ts => do
  let (x, ts) ← operand ts
  let ts ← after [Token.dot, .raw "STWithin", Token.lparen, .raw "geometry::STGeomFromText",
    Token.lparen] ts
  let (shape, ts) ← operand ts
  let (srid, ts) := reference ts
  let ts ← after [Token.rparen, Token.rparen, Token.eq, .int 1] ts
  return (.within x shape srid, ts)

def containment (d : Dialect) : Reader Condition := fun ts =>
  match d with
  | .ansi => none
  | .sqlite => none
  | .postgres => call "ST_Within" "ST_GeomFromText" ts
  | .mysql => call "ST_Within" "ST_GeomFromText" ts
  | .duckdb => call "ST_Within" "ST_GeomFromText" ts
  | .tsql => method ts
  | .oracle => do
    let (c, ts) ← call "SDO_INSIDE" "SDO_GEOMETRY" ts
    let ts ← after [Token.eq, .string "TRUE"] ts
    return (c, ts)

def atom (d : Dialect) : Reader Condition := fun ts => (predicate ts).or (containment d ts)

def word : Connective → Token
  | .and => Token.and
  | .or => Token.or

def several (connective : Connective) (item : Reader Condition) : Nat → Reader Condition
  | 0, _ => none
  | fuel + 1, ts =>
    match item ts with
    | some (c, t :: rest) =>
      if t = word connective then
        (several connective item fuel rest).map fun r => (.binary connective c r.1, r.2)
      else some (c, t :: rest)
    | read => read

def conjunction (factor : Reader Condition) (fuel : Nat) : Reader Condition :=
  several .and factor fuel

def disjunction (factor : Reader Condition) (fuel : Nat) : Reader Condition :=
  several .or (conjunction factor fuel) fuel

def closing : Option (Condition × List Token) → Option (Condition × List Token)
  | some (c, .symbol .rparen :: rest) => some (c, rest)
  | _ => none

def final : Option (Condition × List Token) → Option Condition
  | some (c, []) => some c
  | _ => none

/-- No more parentheses are opened than there is fuel, nor negations. -/
def factor (d : Dialect) : Nat → Reader Condition
  | 0, _ => none
  | fuel + 1, ts =>
    match ts with
    | .keyword .not :: rest => (factor d fuel rest).map fun r => (.not r.1, r.2)
    | .symbol .lparen :: rest => closing (disjunction (factor d fuel) fuel rest)
    | _ => atom d ts

def whole (d : Dialect) (fuel : Nat) : Reader Condition := disjunction (factor d fuel) fuel

end Reader

def Condition.ofWords (d : Dialect) (ts : List Token) : Option Condition :=
  Reader.final (Reader.whole d (ts.length + 1) ts)

def Condition.read (d : Dialect) (ts : List Token) : Option Condition :=
  Condition.ofWords d (words ts)

end Joinery.Sql
