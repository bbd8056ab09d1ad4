import Joinery.Chain.Window

/-!
Windows of results, said without a counter. Of the events that a window reaches those
before its start need only arrive, and a result is built from each of the others. The
first that fails is the failure of all.
-/
namespace Joinery

def Event.arrival (wrap : String → Error) : Event → Except Error Row
  | .row r => .ok r
  | .failure cause => .error (wrap cause)

section
variable {τ : Type} (build : Row → Except Error τ) (wrap : String → Error)

def Event.built (event : Event) : Except Error τ := event.arrival wrap >>= build

def gathered (skip : Nat) (reached : List Event) : Except Error (List τ) := do
  let _ ← (reached.take skip).mapM (Event.arrival wrap)
  (reached.drop skip).mapM (Event.built build wrap)

/-- The events up to the last that a result may be built from. -/
def reachable (skip : Nat) (left : Option Nat) (events : List Event) : List Event :=
  match left with
  | none => events
  | some n => events.take (skip + n)

def Window.harvest (w : Window) (events : List Event) : Except Error (List τ) :=
  if w.limit = some 0 then .ok []
  else gathered build wrap w.start (reachable w.start w.limit events)

end

def Collected.outcome {τ : Type} (c : Collected τ) : Except Error (List τ) :=
  match c.failure with
  | some e => .error e
  | none => .ok c.results

variable {τ : Type} {build : Row → Except Error τ} {wrap : String → Error}

theorem gathered_failure (skip : Nat) (cause : String) (rest : List Event) :
    gathered build wrap skip (.failure cause :: rest) = .error (wrap cause) := by
  cases skip <;> rfl

theorem gathered_skip (skip : Nat) (r : Row) (rest : List Event) :
    gathered build wrap (skip + 1) (.row r :: rest) = gathered build wrap skip rest := by
  unfold gathered
  rw [List.take_succ_cons, List.drop_succ_cons, List.mapM_cons]
  cases (rest.take skip).mapM (Event.arrival wrap) <;> rfl

theorem gathered_build (r : Row) (rest : List Event) :
    gathered build wrap 0 (.row r :: rest) =
      (build r).bind fun x => (gathered build wrap 0 rest).map (x :: ·) := by
  change (Event.row r :: rest).mapM (Event.built build wrap) = _
  rw [List.mapM_cons]
  change (build r).bind _ = (build r).bind fun x => (rest.mapM (Event.built build wrap)).map (x :: ·)
  cases build r with
  | error e => rfl
  | ok x => cases rest.mapM (Event.built build wrap) <;> rfl

theorem outcome_afterResult (x : τ) (c : Collected τ) :
    (Collected.afterResult x c).outcome = c.outcome.map (x :: ·) := by
  obtain ⟨results, pulls, failure⟩ := c
  cases failure <;> rfl

section Reachable
variable {left : Option Nat} (event : Event) (rest : List Event)

theorem reachable_nil (skip : Nat) (left : Option Nat) : reachable skip left [] = [] := by
  cases left <;> simp [reachable]

theorem reachable_skip (skip : Nat) (left : Option Nat) :
    reachable (skip + 1) left (event :: rest) = event :: reachable skip left rest := by
  cases left with
  | none => rfl
  | some n => simp [reachable, Nat.succ_add]

theorem reachable_wanted (wanted : left ≠ some 0) :
    reachable 0 left (event :: rest) = event :: reachable 0 (left.map (· - 1)) rest := by
  cases left with
  | none => rfl
  | some n =>
    obtain ⟨k, rfl⟩ : ∃ k, n = k + 1 :=
      Nat.exists_eq_succ_of_ne_zero fun none => wanted (congrArg some none)
    simp [reachable]

theorem reachable_first (skip : Nat) (wanted : left ≠ some 0) :
    ∃ later, reachable skip left (event :: rest) = event :: later := by
  cases skip with
  | zero => exact ⟨_, reachable_wanted event rest wanted⟩
  | succ skip => exact ⟨_, reachable_skip event rest skip left⟩

end Reachable

theorem gathered_last (rest : List Event) :
    gathered build wrap 0 (reachable 0 (some 0) rest) = .ok [] := by
  simp [reachable, gathered, pure, Except.pure, bind, Except.bind]

theorem outcome_drain {skip : Nat} {left : Option Nat} (wanted : left ≠ some 0)
    (events : List Event) :
    (Collected.drain build wrap skip left events).outcome =
      gathered build wrap skip (reachable skip left events) := by
  fun_induction Collected.drain build wrap skip left events with
  | case1 skip left =>
    rw [reachable_nil]
    cases skip <;> rfl
  | case2 skip left cause rest =>
    obtain ⟨later, shape⟩ := reachable_first (.failure cause) rest skip wanted
    rw [shape, gathered_failure]
    rfl
  | case3 skip left r rest ih =>
    rw [reachable_skip, gathered_skip, ← ih wanted]
    rfl
  | case4 left r rest e failed =>
    rw [reachable_wanted _ _ wanted, gathered_build, failed]
    rfl
  | case5 r rest x made ih =>
    rw [reachable_wanted _ _ wanted, gathered_build, made, outcome_afterResult, ih wanted]
    rfl
  | case6 r rest x made n last =>
    -- one result is wanted yet, so the row is the last that is reached
    have one : n = 1 := by
      have : n ≠ 0 := fun none => wanted (congrArg some none)
      omega
    rw [reachable_wanted _ _ wanted, gathered_build, made, one]
    dsimp only [Option.map_some]
    rw [gathered_last]
    rfl
  | case7 r rest x made n more ih =>
    have wanted' : some (n - 1) ≠ some 0 := by simp; omega
    rw [reachable_wanted _ _ wanted, gathered_build, made, outcome_afterResult, ih wanted']
    rfl

theorem outcome_window (w : Window) (events : List Event) :
    (Collected.window w build wrap events).outcome = w.harvest build wrap events := by
  unfold Collected.window Window.harvest
  split
  · rfl
  · rename_i wanted
    exact outcome_drain wanted events

end Joinery
