import Joinery.Proofs.Sql.Pool

/-!
Queries taken from a pool, whatever is done with them in turn. Every step does one of a
few things to the desk, and from these follow both what a run keeps of the pool and that
no step reaches a query other than the one it names.
-/
namespace Joinery.Sql

namespace Shelf
variable {name other : String} (s : Shelf) (q : Query)

theorem lookup_remove_self (name : String) : (s.remove name).lookup name = none := by
  rw [List.lookup_eq_none_iff]
  intro entry member
  exact bne_comm.trans (List.mem_filter.mp member).2

theorem lookup_remove_of_ne (apart : name ≠ other) :
    (s.remove name).lookup other = s.lookup other := by
  induction s with
  | nil => rfl
  | cons entry rest ih =>
    obtain ⟨key, q⟩ := entry
    by_cases same : key = name
    · have dropped : remove ((key, q) :: rest) name = remove rest name := by
        simp [remove, same]
      have passed : (other == key) = false := by simpa [same] using apart.symm
      rw [dropped, ih, List.lookup_cons, passed]
    · have kept : remove ((key, q) :: rest) name = (key, q) :: remove rest name := by
        simp [remove, same]
      rw [kept, List.lookup_cons, List.lookup_cons, ih]

theorem lookup_put_self (name : String) : (s.put name q).lookup name = some q := by
  simp [put]

theorem lookup_put_of_ne (apart : name ≠ other) :
    (s.put name q).lookup other = s.lookup other := by
  have passed : (other == name) = false := by simpa using apart.symm
  have rest : (s.put name q).lookup other = (s.remove name).lookup other := by
    rw [put, List.lookup_cons, passed]
    rfl
  rw [rest, s.lookup_remove_of_ne apart]

end Shelf

def DeskStep.name : DeskStep → String
  | .checkout name | .drop name | .detach name | .show name | .clear name => name
  | .compile name _ _ => name

namespace Desk
variable {d d' : Desk} {t : DeskStep} {other : String}

def exchange (d : Desk) (name : String) : Pool :=
  match d.held.lookup name with
  | some old => d.pool.checkout.2.giveBack old
  | none => d.pool.checkout.2

/-- All that a step can do to a desk. -/
inductive Effect (d : Desk) : DeskStep → Desk → Prop where
  | taken (name : String) : Effect d (.checkout name)
    { d with pool := d.exchange name, held := d.held.put name d.pool.checkout.1 }
  | dropped {name : String} {q : Query} (held : d.held.lookup name = some q) :
    Effect d (.drop name) { d with pool := d.pool.giveBack q, held := d.held.remove name }
  | detached {name : String} {q : Query} (held : d.held.lookup name = some q) :
    Effect d (.detach name)
      { d with held := d.held.remove name, detached := d.detached.put name q }
  | cleared {name : String} {q : Query} (held : d.held.lookup name = some q) :
    Effect d (.clear name) { d with held := d.held.put name Query.empty }
  | clearedDetached {name : String} {q : Query} (free : d.held.lookup name = none)
    (detached : d.detached.lookup name = some q) :
    Effect d (.clear name) { d with detached := d.detached.put name Query.empty }
  | compiled {name : String} {q : Query} {stores : List Draft} {request : Request}
    (held : d.held.lookup name = some q) (dialect : Dialect) :
    Effect d (.compile name stores request)
      { d with held := d.held.put name (compileDrafts dialect stores request q).query }
  | shown (name : String) : Effect d (.show name) d
  | missing {t : DeskStep} (free : d.held.lookup t.name = none)
    (other : ∀ name, t ≠ .checkout name) : Effect d t d

theorem effect_step (d : Desk) (dialect : Dialect) (t : DeskStep) :
    Effect d t (d.step dialect t).2 := by
  cases t with
  | checkout name => exact .taken name
  | «show» name => exact .shown name
  | drop name =>
    simp only [step, drop]
    cases held : d.held.lookup name with
    | some q => exact .dropped held
    | none => exact .missing held nofun
  | detach name =>
    simp only [step, detach]
    cases held : d.held.lookup name with
    | some q => exact .detached held
    | none => exact .missing held nofun
  | clear name =>
    simp only [step, clear]
    cases held : d.held.lookup name with
    | some q => exact .cleared held
    | none =>
      dsimp only
      cases detached : d.detached.lookup name with
      | some q => exact .clearedDetached held detached
      | none => exact .missing held nofun
  | compile name stores request =>
    simp only [step, compileInto]
    cases held : d.held.lookup name with
    | some q =>
      dsimp only
      split <;> exact .compiled held dialect
    | none => exact .missing held nofun

def run (d : Desk) (steps : List (Dialect × DeskStep)) : Desk :=
  steps.foldl (fun d t => (d.step t.1 t.2).2) d

theorem run_cons (d : Desk) (t : Dialect × DeskStep) (steps : List (Dialect × DeskStep)) :
    d.run (t :: steps) = (d.step t.1 t.2).2.run steps := rfl

theorem sound_exchange (sound : d.pool.Sound) (name : String) : (d.exchange name).Sound := by
  unfold exchange
  cases d.held.lookup name with
  | some old => exact Pool.sound_giveBack (Pool.sound_checkout sound) old
  | none => exact Pool.sound_checkout sound

theorem capacity_exchange (d : Desk) (name : String) :
    (d.exchange name).capacity = d.pool.capacity := by
  unfold exchange
  have out := Pool.checkout_idle d.pool
  cases d.held.lookup name with
  | some old => exact (Pool.giveBack_idle d.pool.checkout.2 old).2.trans out.2
  | none => exact out.2

theorem Effect.sound (effect : Effect d t d') (sound : d.pool.Sound) : d'.pool.Sound := by
  cases effect with
  | taken name => exact sound_exchange sound name
  | dropped => exact Pool.sound_giveBack sound _
  | detached | cleared | clearedDetached | compiled | shown | missing => exact sound

theorem Effect.capacity (effect : Effect d t d') : d'.pool.capacity = d.pool.capacity := by
  cases effect with
  | taken name => exact capacity_exchange d name
  | dropped => exact (Pool.giveBack_idle d.pool _).2
  | detached | cleared | clearedDetached | compiled | shown | missing => rfl

theorem Effect.others (effect : Effect d t d') (apart : t.name ≠ other) :
    d'.held.lookup other = d.held.lookup other ∧
      d'.detached.lookup other = d.detached.lookup other := by
  cases effect with
  | taken name => exact ⟨Shelf.lookup_put_of_ne _ _ apart, rfl⟩
  | dropped => exact ⟨Shelf.lookup_remove_of_ne _ apart, rfl⟩
  | detached =>
    exact ⟨Shelf.lookup_remove_of_ne _ apart, Shelf.lookup_put_of_ne _ _ apart⟩
  | cleared | compiled => exact ⟨Shelf.lookup_put_of_ne _ _ apart, rfl⟩
  | clearedDetached => exact ⟨rfl, Shelf.lookup_put_of_ne _ _ apart⟩
  | shown | missing => exact ⟨rfl, rfl⟩

theorem Effect.detached_kept (effect : Effect d t d') (other : ∀ name, t ≠ .detach name)
    (uncleared : d.held.lookup t.name = none → ∀ name, t ≠ .clear name) :
    d'.detached = d.detached := by
  cases effect with
  | detached => exact absurd rfl (other _)
  | clearedDetached free => exact absurd rfl (uncleared free _)
  | taken | dropped | cleared | compiled | shown | missing => rfl

theorem Effect.pool_kept (effect : Effect d t d') (other : ∀ name, t ≠ .checkout name)
    (undropped : ∀ name, t = .drop name → d.held.lookup name = none) : d'.pool = d.pool := by
  cases effect with
  | taken name => exact absurd rfl (other name)
  | dropped held => cases (undropped _ rfl).symm.trans held
  | detached | cleared | clearedDetached | compiled | shown | missing => rfl

theorem step_detached (d : Desk) (shelf : Shelf) (dialect : Dialect) (t : DeskStep) :
    ∃ shelf', (({ d with detached := shelf } : Desk).step dialect t).2 =
      { (d.step dialect t).2 with detached := shelf' } := by
  cases t with
  | checkout name | «show» name => exact ⟨shelf, rfl⟩
  | drop name =>
    simp only [step, drop]
    cases d.held.lookup name <;> exact ⟨shelf, rfl⟩
  | detach name =>
    simp only [step, detach]
    cases d.held.lookup name with
    | some q => exact ⟨shelf.put name q, rfl⟩
    | none => exact ⟨shelf, rfl⟩
  | clear name =>
    simp only [step, clear]
    cases d.held.lookup name with
    | some q => exact ⟨shelf, rfl⟩
    | none =>
      cases shelf.lookup name <;> cases d.detached.lookup name <;> exact ⟨_, rfl⟩
  | compile name stores request =>
    simp only [step, compileInto]
    cases d.held.lookup name with
    | some q =>
      dsimp only
      split <;> exact ⟨shelf, rfl⟩
    | none => exact ⟨shelf, rfl⟩

theorem run_detached (d : Desk) (shelf : Shelf) (steps : List (Dialect × DeskStep)) :
    ∃ shelf', ({ d with detached := shelf } : Desk).run steps =
      { d.run steps with detached := shelf' } := by
  -- a step may change the shelf of detached queries, so the claim is for any shelf
  induction steps generalizing d shelf with
  | nil => exact ⟨shelf, rfl⟩
  | cons t steps ih =>
    obtain ⟨between, first⟩ := step_detached d shelf t.1 t.2
    rw [run_cons, run_cons, first]
    exact ih _ between

theorem run_others (d : Desk) {steps : List (Dialect × DeskStep)}
    (apart : ∀ t ∈ steps, t.2.name ≠ other) :
    (d.run steps).held.lookup other = d.held.lookup other ∧
      (d.run steps).detached.lookup other = d.detached.lookup other := by
  induction steps generalizing d with
  | nil => exact ⟨rfl, rfl⟩
  | cons t steps ih =>
    have first := (effect_step d t.1 t.2).others (apart t List.mem_cons_self)
    have rest := ih (d.step t.1 t.2).2 fun u later => apart u (List.mem_cons_of_mem t later)
    exact ⟨rest.1.trans first.1, rest.2.trans first.2⟩

theorem sound_run (steps : List (Dialect × DeskStep)) (sound : d.pool.Sound) :
    (d.run steps).pool.Sound ∧ (d.run steps).pool.capacity = d.pool.capacity := by
  -- soundness of the pool is the invariant; it alone makes what is handed out empty
  induction steps generalizing d with
  | nil => exact ⟨sound, rfl⟩
  | cons t steps ih =>
    have effect := effect_step d t.1 t.2
    have rest := ih (effect.sound sound)
    exact ⟨rest.1, rest.2.trans effect.capacity⟩

def returned (capacity idle : Nat) : Nat := if idle < capacity then idle + 1 else idle

structure Orderly (capacity : Nat) (d : Desk) : Prop where
  bounded : d.pool.idle.length ≤ capacity
  reset : ∀ q ∈ d.pool.idle, q = Query.empty
  fresh : ∀ name, (d.checkout name).1 = .query Query.empty ∧
    (d.checkout name).2.held.lookup name = some Query.empty
  taken : ∀ name, d.held.lookup name = none →
    (d.checkout name).2.pool.idle.length = d.pool.idle.length - 1
  exchanged : ∀ name, d.held.lookup name ≠ none →
    (d.checkout name).2.pool.idle.length = returned capacity (d.pool.idle.length - 1)
  dropped : ∀ name, d.held.lookup name ≠ none →
    (d.drop name).2.pool.idle.length = returned capacity d.pool.idle.length ∧
      (d.drop name).2.held.lookup name = none
  detached : ∀ name q, d.held.lookup name = some q →
    (d.detach name).1 = .query q ∧ (d.detach name).2.pool = d.pool ∧
      (d.detach name).2.held.lookup name = none ∧
      (d.detach name).2.detached.lookup name = some q
  /-- Nothing else changes the pool, and so a detached query does not come back. -/
  kept : ∀ dialect t, (∀ name, t ≠ .checkout name) →
    (∀ name, t = .drop name → d.held.lookup name = none) → (d.step dialect t).2.pool = d.pool
  /-- Nor does a run bring it back: pool and held queries are the same whatever is
      detached. -/
  independent : ∀ shelf steps,
    (({ d with detached := shelf } : Desk).run steps).pool = (d.run steps).pool ∧
      (({ d with detached := shelf } : Desk).run steps).held = (d.run steps).held
  apart : ∀ dialect t, (∀ name, t ≠ .detach name) →
    (d.held.lookup t.name = none → ∀ name, t ≠ .clear name) →
    (d.step dialect t).2.detached = d.detached
  untouched : ∀ other steps, (∀ t ∈ steps, t.2.name ≠ other) →
    (d.run steps).held.lookup other = d.held.lookup other ∧
      (d.run steps).detached.lookup other = d.detached.lookup other

theorem orderly_of_sound (sound : d.pool.Sound) : Orderly d.pool.capacity d where
  bounded := sound.bounded
  reset := sound.reset
  fresh name := by
    have out : d.pool.checkout.1 = Query.empty := Pool.checkout_fresh sound
    refine ⟨congrArg DeskAnswer.query out, ?_⟩
    exact (Shelf.lookup_put_self d.held d.pool.checkout.1 name).trans (congrArg some out)
  taken name free := by
    change (d.exchange name).idle.length = _
    rw [exchange, free]
    exact (Pool.checkout_idle d.pool).1
  exchanged name held := by
    obtain ⟨old, found⟩ := Option.ne_none_iff_exists'.mp held
    have out := Pool.checkout_idle d.pool
    change (d.exchange name).idle.length = _
    rw [exchange, found]
    dsimp only
    rw [(Pool.giveBack_idle _ old).1, out.1, out.2, returned]
  dropped name held := by
    obtain ⟨q, found⟩ := Option.ne_none_iff_exists'.mp held
    rw [drop, found]
    exact ⟨(Pool.giveBack_idle d.pool q).1, Shelf.lookup_remove_self d.held name⟩
  detached name q found := by
    rw [detach, found]
    exact ⟨rfl, rfl, Shelf.lookup_remove_self d.held name, Shelf.lookup_put_self d.detached q name⟩
  kept dialect t other undropped := (effect_step d dialect t).pool_kept other undropped
  independent shelf steps := by
    obtain ⟨shelf', same⟩ := run_detached d shelf steps
    rw [same]
    exact ⟨rfl, rfl⟩
  apart dialect t other uncleared := (effect_step d dialect t).detached_kept other uncleared
  untouched other steps apart := run_others d apart

/-- However buffers are checked out, compiled into, dropped and detached, the pool stays within
    its capacity and hands out nothing but empty buffers. -/
theorem orderly_run (capacity : Nat) (steps : List (Dialect × DeskStep)) :
    Orderly capacity ((ofCapacity capacity).run steps) := by
  obtain ⟨sound, same⟩ := sound_run steps (d := ofCapacity capacity) (Pool.sound_ofCapacity capacity)
  have orderly := orderly_of_sound sound
  rwa [same] at orderly

example :
    let held := (ofCapacity 1).run [(.ansi, .checkout "a"), (.ansi, .checkout "b")]
    (held.run [(.ansi, .drop "a"), (.ansi, .drop "b")]).pool.idle = [Query.empty] := rfl

end Desk
end Joinery.Sql
