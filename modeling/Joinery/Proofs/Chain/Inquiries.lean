import Joinery.Chain.Run
import Joinery.Proofs.Chain.Windowing
import Joinery.Proofs.Sql.Pool

/-!
Calls on one data source, one after the other. Queries are used again from call to call,
yet every call sends what a new query would hold, if it sends anything, and answers what
the transport and the rows make of it. The pool neither loses nor gains a query over a
call, whatever comes of it.
-/
namespace Joinery
open Sql

namespace Sql.Compiled

def calls (compiled : Compiled) (call : Query → Call) : List Call :=
  match compiled.failure with
  | some _ => []
  | none => [call compiled.query]

def outcome {τ : Type} (compiled : Compiled) (answer : Query → Except Error τ) : Except Error τ :=
  match compiled.failure with
  | some e => .error e
  | none => answer compiled.query

theorem calls_length_le (compiled : Compiled) (call : Query → Call) :
    (compiled.calls call).length ≤ 1 := by
  unfold calls
  split <;> simp

end Sql.Compiled

/-- A run that does with a statement what its call and its answer say, and gives the query
    back to the pool that it was taken from. -/
structure Run.Follows {τ : Type} (run : Run τ) (pool : Pool) (compiled : Compiled)
    (call : Query → Call) (answer : Query → Except Error τ) : Prop where
  calls : run.calls = compiled.calls call
  outcome : run.outcome = compiled.outcome answer
  pool : run.pool = pool.giveBack compiled.query

namespace Chain
variable {ρ : Type} (c : Chain ρ) (t : Transport) (orders : List SortOrder) (w : Window)

def materialized (q : Query) (cursor : Cursor) : Except Error (List (Joined ρ)) := do
  let layout ← Layout.resolve cursor.columns c.members q.prefixes
  w.harvest (fun row => c.build ⟨row, layout, q⟩) (.execution q.sql q.params) cursor.events

/-- What comes of a statement that was sent. Without a cursor there is nothing to read, and
    a failure of the transport counts if nothing has failed before. -/
def answer (q : Query) : Except Error (List (Joined ρ)) := do
  let reply := t.query q.sql q.params
  let results ← reply.cursor.elim (.ok []) (c.materialized w q)
  reply.failure.elim (.ok results) .error

theorem outcome_collect (q : Query) (cursor : Cursor) :
    (c.collect q w cursor).outcome = c.materialized w q cursor := by
  unfold collect Cursor.collect materialized
  cases Layout.resolve cursor.columns c.members q.prefixes with
  | error e => rfl
  | ok layout => exact outcome_window w cursor.events

theorem receive_answer (q : Query) :
    (c.receive q w (t.query q.sql q.params)).1 = c.answer t w q := by
  unfold receive answer
  obtain ⟨cursor, failure⟩ := t.query q.sql q.params
  cases cursor with
  | none => cases failure <;> rfl
  | some cursor =>
    have read := c.outcome_collect w q cursor
    dsimp only [Option.elim]
    rw [← read]
    obtain ⟨results, pulls, failed⟩ := c.collect q w cursor
    cases failed <;> cases failure <;> rfl

theorem send_follows {τ : Type} (pool : Pool) (request : Request) (call : Query → Call)
    (read : (q : Query) → (call q).Answer → Except Error τ × Nat) :
    (c.send pool t request call read).Follows pool.checkout.2
      (compile c.dialect c.members request pool.checkout.1) call
      fun q => (read q (t.answer (call q))).1 := by
  unfold send
  cases refused : (compile c.dialect c.members request pool.checkout.1).failure with
  | some e => constructor <;> simp [refused, Compiled.calls, Compiled.outcome]
  | none => constructor <;> simp [refused, Compiled.calls, Compiled.outcome, Transport.ask]

theorem get_follows (pool : Pool) :
    (c.get pool t orders w).Follows pool.checkout.2
      (compile c.dialect c.members (.select orders) pool.checkout.1)
      (fun q => .query q.sql q.params) (c.answer t w) := by
  rw [← funext (c.receive_answer t w)]
  exact c.send_follows t pool (.select orders) _ _

theorem count_follows (pool : Pool) :
    (c.count pool t).Follows pool.checkout.2
      (compile c.dialect c.members .count pool.checkout.1)
      (fun q => .count q.sql q.params) (fun q => t.count q.sql q.params) :=
  c.send_follows t pool .count _ _

end Chain

inductive Inquiry where
  | get {ρ : Type} (c : Chain ρ) (t : Transport) (orders : List SortOrder) (w : Window)
  | count {ρ : Type} (c : Chain ρ) (t : Transport)

namespace Inquiry

def Result : Inquiry → Type
  | @get ρ _ _ _ _ => List (Joined ρ)
  | .count _ _ => Int64

def run (pool : Pool) : (i : Inquiry) → Run i.Result
  | .get c t orders w => c.get pool t orders w
  | .count c t => c.count pool t

def compiledInto (q : Query) : Inquiry → Compiled
  | .get c _ orders _ => compile c.dialect c.members (.select orders) q
  | .count c _ => compile c.dialect c.members .count q

def call : Inquiry → Query → Call
  | .get _ _ _ _, q => .query q.sql q.params
  | .count _ _, q => .count q.sql q.params

def answer : (i : Inquiry) → Query → Except Error i.Result
  | .get c t _ w => c.answer t w
  | .count _ t => fun q => t.count q.sql q.params

variable {pool : Pool}

theorem run_follows (pool : Pool) (i : Inquiry) :
    (i.run pool).Follows pool.checkout.2 (i.compiledInto pool.checkout.1) i.call i.answer := by
  cases i with
  | get c t orders w => exact c.get_follows t orders w pool
  | count c t => exact c.count_follows t pool

theorem sound_run (sound : pool.Sound) (i : Inquiry) : (i.run pool).pool.Sound := by
  rw [(run_follows pool i).pool]
  exact Pool.sound_giveBack (Pool.sound_checkout sound) _

theorem capacity_run (pool : Pool) (i : Inquiry) : (i.run pool).pool.capacity = pool.capacity := by
  rw [(run_follows pool i).pool, (Pool.giveBack_idle _ _).2, (Pool.checkout_idle pool).2]

def poolAfter (pool : Pool) (inquiries : List Inquiry) : Pool :=
  inquiries.foldl (fun pool i => (i.run pool).pool) pool

theorem sound_poolAfter (sound : pool.Sound) (inquiries : List Inquiry) :
    (poolAfter pool inquiries).Sound ∧ (poolAfter pool inquiries).capacity = pool.capacity := by
  induction inquiries generalizing pool with
  | nil => exact ⟨sound, rfl⟩
  | cons i rest ih =>
    obtain ⟨still, same⟩ := ih (sound_run sound i)
    exact ⟨still, same.trans (capacity_run pool i)⟩

/-- After any calls, one more sends at most one statement, and the one that a new query
    would hold; a statement that did not compile is not sent. Its outcome is that of the
    statement, and as many queries are idle as were before, or the one it was compiled into
    if none were and the capacity allows one. -/
theorem run_after (capacity : Nat) (before : List Inquiry) (i : Inquiry) :
    let pool := poolAfter (Pool.ofCapacity capacity) before
    let run := i.run pool
    let fresh := i.compiledInto Query.empty
    run.calls = fresh.calls i.call ∧ run.calls.length ≤ 1 ∧
      run.outcome = fresh.outcome i.answer ∧
      run.pool.idle.length =
        if 0 < pool.idle.length then pool.idle.length else min 1 capacity := by
  intro pool run fresh
  obtain ⟨sound, capacities⟩ := sound_poolAfter (Pool.sound_ofCapacity capacity) before
  have follows := run_follows pool i
  rw [Pool.checkout_fresh sound] at follows
  refine ⟨follows.calls, ?_, follows.outcome, ?_⟩
  · rw [follows.calls]
    exact fresh.calls_length_le i.call
  · have exchanged := Pool.idle_exchange sound fresh.query
    rw [capacities] at exchanged
    rw [follows.pool]
    exact exchanged

end Inquiry
end Joinery
