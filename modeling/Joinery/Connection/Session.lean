import Joinery.Error

/-!
One connection and the transaction that may hold it. A connection is its contents
and, while a transaction is open, the contents at its beginning. While a guard is
alive the connection belongs to it, and everything done past the guard is refused
before it reaches the connection. A guard that goes away without having been
committed or rolled back rolls back.
-/
namespace Joinery

structure Connection (σ : Type) where
  contents : σ
  saved : Option σ
deriving DecidableEq

structure Statement (σ α : Type) where
  text : String
  params : List Value
  run : σ → Except String α × σ

namespace Connection
variable {σ : Type}

def begin (c : Connection σ) : Except String (Connection σ) :=
  match c.saved with
  | none => .ok ⟨c.contents, some c.contents⟩
  | some _ => .error "cannot start a transaction within a transaction"

/-- A refused commit leaves the transaction open. -/
def commit (c : Connection σ) (refusal : Option String) : Except String (Connection σ) :=
  match c.saved, refusal with
  | none, _ => .error "cannot commit - no transaction is active"
  | some _, some cause => .error cause
  | some _, none => .ok ⟨c.contents, none⟩

def rollback (c : Connection σ) : Except String (Connection σ) :=
  match c.saved with
  | none => .error "cannot rollback - no transaction is active"
  | some before => .ok ⟨before, none⟩

def run {α : Type} (c : Connection σ) (s : Statement σ α) :
    Except Error α × Connection σ :=
  let (answer, contents) := s.run c.contents
  (answer.mapError (.execution s.text s.params), { c with contents })

end Connection

structure Session (σ : Type) where
  connection : Connection σ
  owned : Bool
  guarded : Bool
deriving DecidableEq

namespace Session
variable {σ α : Type}

def heldByTransaction : String :=
  "connection is held by an open transaction on this thread; use get_in/count_in"

def opened (contents : σ) : Session σ := ⟨⟨contents, none⟩, false, false⟩

def begin (s : Session σ) : Except Error Unit × Session σ :=
  if s.owned then (.error (.execution "BEGIN" [] heldByTransaction), s)
  else
    match s.connection.begin with
    | .error cause => (.error (.execution "BEGIN" [] cause), s)
    | .ok connection => (.ok (), ⟨connection, true, true⟩)

def run (s : Session σ) (statement : Statement σ α) : Except Error α × Session σ :=
  if s.owned then
    (.error (.execution statement.text statement.params heldByTransaction), s)
  else
    let (answer, connection) := s.connection.run statement
    (answer, { s with connection })

def runIn (s : Session σ) (statement : Statement σ α) :
    Option (Except Error α) × Session σ :=
  if s.guarded then
    let (answer, connection) := s.connection.run statement
    (some answer, { s with connection })
  else (none, s)

/-- The guard goes away. A guard that is not finished rolls back, whether or not
    anything is left to roll back. -/
def release (s : Session σ) (finished : Bool) : Session σ :=
  let connection :=
    if finished then s.connection
    else
      match s.connection.rollback with
      | .ok connection => connection
      | .error _ => s.connection
  ⟨connection, false, false⟩

/-- Ends the transaction. The guard is finished before the closing statement runs, so
    that it does not roll back whatever comes of it. -/
def finish (s : Session σ) (text : String) (closed : Except String (Connection σ)) :
    Except Error Unit × Session σ :=
  match closed with
  | .ok connection => (.ok (), release { s with connection } true)
  | .error cause => (.error (.execution text [] cause), release s true)

def commit (s : Session σ) (refusal : Option String) :
    Option (Except Error Unit) × Session σ :=
  if s.guarded then
    let (answer, s) := s.finish "COMMIT" (s.connection.commit refusal)
    (some answer, s)
  else (none, s)

def rollback (s : Session σ) : Option (Except Error Unit) × Session σ :=
  if s.guarded then
    let (answer, s) := s.finish "ROLLBACK" s.connection.rollback
    (some answer, s)
  else (none, s)

def drop (s : Session σ) : Bool × Session σ :=
  if s.guarded then (true, s.release false) else (false, s)

end Session
end Joinery
