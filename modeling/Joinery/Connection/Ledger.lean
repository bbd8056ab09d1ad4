import Joinery.Connection.Binding
import Joinery.Connection.Session

/-!
A table `t` of one integer column, the statements that read and extend it, and some
that only hand their parameters back.
-/
namespace Joinery

abbrev Ledger := List Int64

namespace Ledger

inductive Answer where
  | done
  | number (n : Int64)
  | rows (columns : List String) (rows : List (List Value))

def insert (id : Int64) : Statement Ledger Answer where
  text := "INSERT INTO t (id) VALUES (" ++ Value.integerText id ++ ")"
  params := []
  run ids := (.ok .done, ids ++ [id])

def size : Statement Ledger Answer where
  text := "SELECT COUNT(*) FROM t"
  params := []
  run ids := (.ok (.number (Int64.ofNat ids.length)), ids)

def rows : Statement Ledger Answer where
  text := "SELECT id FROM t ORDER BY id"
  params := []
  run ids :=
    let sorted := ids.mergeSort fun a b => decide (a.toInt ≤ b.toInt)
    (.ok (.rows ["id"] (sorted.map fun n => [Value.integer n])), ids)

def echoColumns (params : List Value) : List String :=
  (List.range params.length).map fun i => "c" ++ toString i

def echo (params : List Value) : Statement Ledger Answer where
  text := "SELECT " ++ ", ".intercalate ((echoColumns params).map fun c => "? AS " ++ c)
  params
  run ids :=
    if params.isEmpty then (.error "incomplete input", ids)
    else (.ok (.rows (echoColumns params) [params.map Value.stored]), ids)

def echoCount (params : List Value) : Statement Ledger Answer where
  text := "SELECT ? AS n"
  params
  run ids :=
    match (params.headD .null).stored with
    | .integer n => (.ok (.number n), ids)
    | v => (.error ("Invalid column type " ++ v.storageClass ++ " at index: 0, name: n"), ids)

def missing (params : List Value) : Statement Ledger Answer where
  text := "SELECT x FROM missing WHERE x = ?"
  params
  run ids := (.error "no such table: missing", ids)

end Ledger
end Joinery
