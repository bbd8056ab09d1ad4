import Joinery.Chain.Basic
import Joinery.Chain.Window
import Joinery.Sql.Pool

/-!
Running a chain. A query is taken from the pool, the chain is compiled into it, the
statement goes to the transport at most once, and the query goes back to the pool
whatever the outcome. Nothing is sent if the chain does not compile.
-/
namespace Joinery

structure Reply where
  cursor : Option Cursor
  failure : Option Error

structure Transport where
  query : String → List Value → Reply
  count : String → List Value → Except Error Int64

inductive Call where
  | query (sql : String) (params : List Value)
  | count (sql : String) (params : List Value)
deriving DecidableEq

@[reducible] def Call.Answer : Call → Type
  | .query _ _ => Reply
  | .count _ _ => Except Error Int64

namespace Transport

def answer (t : Transport) : (call : Call) → call.Answer
  | .query sql params => t.query sql params
  | .count sql params => t.count sql params

/-- The one way to ask a transport, which leaves the call behind with its answer. -/
def ask (t : Transport) (call : Call) : call.Answer × List Call := (t.answer call, [call])

end Transport

structure Run (τ : Type) where
  outcome : Except Error τ
  calls : List Call
  pulls : Nat
  pool : Sql.Pool

def Cursor.collect {τ : Type} (cursor : Cursor) (members : List Sql.Member) (q : Sql.Query)
    (w : Window) (build : Reading → Except Error τ) : Collected τ :=
  match Layout.resolve cursor.columns members q.prefixes with
  | .error e => ⟨[], 0, some e⟩
  | .ok layout =>
    Collected.window w (fun row => build ⟨row, layout, q⟩) (.execution q.sql q.params)
      cursor.events

namespace Chain
variable {ρ : Type}

def collect (c : Chain ρ) (q : Sql.Query) (w : Window) (cursor : Cursor) :
    Collected (Joined ρ) :=
  cursor.collect c.members q w c.build

/-- What comes of a reply; results are kept only if nothing has failed. -/
def receive (c : Chain ρ) (q : Sql.Query) (w : Window) (reply : Reply) :
    Except Error (List (Joined ρ)) × Nat :=
  let read :=
    match reply.cursor with
    | some cursor => c.collect q w cursor
    | none => ⟨[], 0, none⟩
  match read.failure.or reply.failure with
  | some e => (.error e, read.pulls)
  | none => (.ok read.results, read.pulls)

def send {τ : Type} (c : Chain ρ) (pool : Sql.Pool) (t : Transport) (request : Sql.Request)
    (call : Sql.Query → Call) (read : (q : Sql.Query) → (call q).Answer → Except Error τ × Nat) :
    Run τ :=
  let (fresh, pool) := pool.checkout
  let compiled := Sql.compile c.dialect c.members request fresh
  let q := compiled.query
  match compiled.failure with
  | some e => ⟨.error e, [], 0, pool.giveBack q⟩
  | none =>
    let (answer, calls) := t.ask (call q)
    let (outcome, pulls) := read q answer
    ⟨outcome, calls, pulls, pool.giveBack q⟩

def get (c : Chain ρ) (pool : Sql.Pool) (t : Transport) (orders : List SortOrder)
    (w : Window) : Run (List (Joined ρ)) :=
  c.send pool t (.select orders) (fun q => .query q.sql q.params) fun q reply => c.receive q w reply

def count (c : Chain ρ) (pool : Sql.Pool) (t : Transport) : Run Int64 :=
  c.send pool t .count (fun q => .count q.sql q.params) fun _ total => (total, 0)

end Chain
end Joinery
