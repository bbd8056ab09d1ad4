import Joinery.Sql.Statement

/-!
A pool of queries for reuse. A query taken out is always as good as new; one given
back is cleared first, and kept only while the pool is below its capacity. A desk
is a pool with the queries taken from it, each under a name, and those that were
detached and will not come back.
-/
namespace Joinery.Sql

structure Pool where
  capacity : Nat
  idle : List Query
deriving DecidableEq

def Pool.defaultCapacity : Nat := 16

def Pool.ofCapacity (capacity : Nat) : Pool := ⟨capacity, []⟩

namespace Pool

def checkout (p : Pool) : Query × Pool :=
  match p.idle with
  | [] => (Query.empty, p)
  | q :: rest => (q, { p with idle := rest })

def giveBack (p : Pool) (q : Query) : Pool :=
  if p.idle.length < p.capacity then { p with idle := q.clear :: p.idle } else p

end Pool

abbrev Shelf := List (String × Query)

def Shelf.put (s : Shelf) (name : String) (q : Query) : Shelf :=
  (name, q) :: s.filter (·.1 != name)

def Shelf.remove (s : Shelf) (name : String) : Shelf := s.filter (·.1 != name)

structure Desk where
  pool : Pool
  held : Shelf
  detached : Shelf

inductive DeskStep where
  | checkout (name : String)
  | drop (name : String)
  | detach (name : String)
  | show (name : String)
  | clear (name : String)
  | compile (name : String) (stores : List Draft) (request : Request)

inductive DeskAnswer where
  | query (q : Query)
  | dropped (had : Bool)
  | noSuchQuery
  | failed (e : Error) (left : Query)

namespace Desk

def ofCapacity (capacity : Nat) : Desk := ⟨Pool.ofCapacity capacity, [], []⟩

/-- A query already held under the name goes back only after the new one is out. -/
def checkout (d : Desk) (name : String) : DeskAnswer × Desk :=
  let (q, pool) := d.pool.checkout
  let pool :=
    match d.held.lookup name with
    | some old => pool.giveBack old
    | none => pool
  (.query q, { d with pool, held := d.held.put name q })

def drop (d : Desk) (name : String) : DeskAnswer × Desk :=
  match d.held.lookup name with
  | some q =>
    (.dropped true, { d with pool := d.pool.giveBack q, held := d.held.remove name })
  | none => (.dropped false, d)

def detach (d : Desk) (name : String) : DeskAnswer × Desk :=
  match d.held.lookup name with
  | some q =>
    (.query q, { d with held := d.held.remove name, detached := d.detached.put name q })
  | none => (.noSuchQuery, d)

def find? (d : Desk) (name : String) : Option Query :=
  (d.held.lookup name).or (d.detached.lookup name)

def view (d : Desk) (name : String) : DeskAnswer :=
  match d.find? name with
  | some q => .query q
  | none => .noSuchQuery

def clear (d : Desk) (name : String) : DeskAnswer × Desk :=
  match d.held.lookup name with
  | some q => (.query q.clear, { d with held := d.held.put name q.clear })
  | none =>
    match d.detached.lookup name with
    | some q => (.query q.clear, { d with detached := d.detached.put name q.clear })
    | none => (.noSuchQuery, d)

def compileInto (d : Desk) (dialect : Dialect) (name : String) (stores : List Draft)
    (request : Request) : DeskAnswer × Desk :=
  match d.held.lookup name with
  | none => (.noSuchQuery, d)
  | some q =>
    let c := compileDrafts dialect stores request q
    let d := { d with held := d.held.put name c.query }
    match c.failure with
    | none => (.query c.query, d)
    | some e => (.failed e c.query, d)

def step (dialect : Dialect) (d : Desk) : DeskStep → DeskAnswer × Desk
  | .checkout name => d.checkout name
  | .drop name => d.drop name
  | .detach name => d.detach name
  | .show name => (d.view name, d)
  | .clear name => d.clear name
  | .compile name stores request => d.compileInto dialect name stores request

end Desk
end Joinery.Sql
