import Joinery.Connection.Ledger
import Mathlib.Data.List.Induction

/-!
Who owns a connection, whatever is done with it in turn. It is owned exactly while a guard
is alive. Until the guard goes away only what is done through it has an effect, and what it
leaves behind are the contents as they are, or those at the begin that it came from.
-/
namespace Joinery

inductive SessionStep (σ α : Type) where
  | begin
  | run (statement : Statement σ α)
  | runIn (statement : Statement σ α)
  | commit (refusal : Option String)
  | rollback
  | drop

namespace SessionStep
variable {σ α : Type}

def ends : SessionStep σ α → Bool
  | .commit _ | .rollback | .drop => true
  | .begin | .run _ | .runIn _ => false

def granted : SessionStep σ α → Bool
  | .commit refusal => refusal.isNone
  | _ => true

end SessionStep

def Statement.answer {σ α : Type} (statement : Statement σ α) (contents : σ) : Except Error α :=
  (statement.run contents).1.mapError (.execution statement.text statement.params)

namespace Session
variable {σ α : Type}

def step (s : Session σ) : SessionStep σ α → Session σ
  | .begin => s.begin.2
  | .run statement => (s.run statement).2
  | .runIn statement => (s.runIn statement).2
  | .commit refusal => (s.commit refusal).2
  | .rollback => s.rollback.2
  | .drop => s.drop.2

def after (s : Session σ) (steps : List (SessionStep σ α)) : Session σ := steps.foldl step s

theorem after_concat (s : Session σ) (steps : List (SessionStep σ α)) (t : SessionStep σ α) :
    s.after (steps ++ [t]) = (s.after steps).step t := by
  rw [after, List.foldl_append]
  rfl

def within (start contents : σ) : Session σ := ⟨⟨contents, some start⟩, true, true⟩

/-- Without a guard everything reaches the connection, and there is no transaction to end. -/
structure Free (s : Session σ) : Prop where
  begin : s.begin = (.ok (), within s.connection.contents s.connection.contents)
  run : ∀ {β : Type} (statement : Statement σ β), s.run statement =
    (statement.answer s.connection.contents, opened (statement.run s.connection.contents).2)
  unguarded : ∀ {β : Type} (statement : Statement σ β) (refusal : Option String),
    s.runIn statement = (none, s) ∧ s.commit refusal = (none, s) ∧ s.rollback = (none, s) ∧
      s.drop = (false, s)

/-- With a guard nothing past it reaches the connection; what is done through it does. -/
structure Held (s : Session σ) (start : σ) : Prop where
  begin_refused : s.begin = (.error (.execution "BEGIN" [] heldByTransaction), s)
  run_refused : ∀ {β : Type} (statement : Statement σ β), s.run statement =
    (.error (.execution statement.text statement.params heldByTransaction), s)
  runIn : ∀ {β : Type} (statement : Statement σ β), s.runIn statement =
    (some (statement.answer s.connection.contents),
      within start (statement.run s.connection.contents).2)
  commit : s.commit none = (some (.ok ()), opened s.connection.contents)
  rollback : s.rollback = (some (.ok ()), opened start)
  drop : s.drop = (true, opened start)
  freed : ∀ {β : Type} (t : SessionStep σ β), t.ends = true → t.granted = true → Free (s.step t)

theorem free_opened (contents : σ) : Free (opened contents) where
  begin := rfl
  run _ := rfl
  unguarded _ _ := ⟨rfl, rfl, rfl, rfl⟩

theorem held_within (start contents : σ) : Held (within start contents) start where
  begin_refused := rfl
  run_refused _ := rfl
  runIn _ := rfl
  commit := rfl
  rollback := rfl
  drop := rfl
  freed t ends granted := by
    cases t with
    | begin | run | runIn => cases ends
    | commit refusal =>
      cases refusal with
      | none => exact free_opened contents
      | some cause => cases granted
    | rollback | drop => exact free_opened start

variable {first start : σ} {steps : List (SessionStep σ α)} {t : SessionStep σ α} {s : Session σ}

/-- The contents at the begin that found no guard and since which none has gone away. -/
def BeganOn (first : σ) (steps : List (SessionStep σ α)) (start : σ) : Prop :=
  ∃ before during, steps = before ++ .begin :: during ∧ (∀ t ∈ during, t.ends = false) ∧
    (opened first).after before = opened start

theorem BeganOn.concat (began : BeganOn first steps start) (lasts : t.ends = false) :
    BeganOn first (steps ++ [t]) start := by
  obtain ⟨before, during, rfl, last, reached⟩ := began
  refine ⟨before, during ++ [t], ?_, ?_, reached⟩
  · rw [List.append_assoc, List.cons_append]
  · intro u member
    rcases List.mem_append.mp member with earlier | new
    · exact last u earlier
    · rw [List.mem_singleton.mp new]
      exact lasts

inductive Standing (first : σ) (steps : List (SessionStep σ α)) : Session σ → Prop where
  | free (contents : σ) : Standing first steps (opened contents)
  | held {start : σ} (contents : σ) (began : BeganOn first steps start) :
    Standing first steps (within start contents)

theorem standing_step (standing : Standing first steps s) (reached : (opened first).after steps = s)
    (granted : t.granted = true) : Standing first (steps ++ [t]) (s.step t) := by
  cases standing with
  | free contents =>
    cases t with
    | begin =>
      refine .held contents ⟨steps, [], rfl, ?_, reached⟩
      intro u member
      cases member
    | run statement => exact .free _
    | runIn | commit | rollback | drop => exact .free contents
  | @held start contents began =>
    cases t with
    | begin | run => exact .held contents (began.concat rfl)
    | runIn statement => exact .held _ (began.concat rfl)
    | commit refusal =>
      cases refusal with
      | none => exact .free contents
      | some cause => cases granted
    | rollback | drop => exact .free start

theorem standing_after (first : σ) (steps : List (SessionStep σ α))
    (granted : ∀ t ∈ steps, t.granted = true) :
    Standing first steps ((opened first).after steps) := by
  -- by the last step: how the session stands refers to where it began
  induction steps using List.reverseRecOn with
  | nil => exact .free first
  | append_singleton steps t ih =>
    have earlier := ih fun u member => granted u (List.mem_append_left [t] member)
    rw [after_concat]
    exact standing_step earlier rfl (granted t (by simp))

/-- Between any two steps the session has an owner exactly while a guard is alive. Without one
    it is free; with one it is held by the transaction that began. -/
theorem ownership (first : σ) {steps : List (SessionStep σ α)}
    (granted : ∀ t ∈ steps, t.granted = true) :
    let s := (opened first).after steps
    s.owned = s.guarded ∧ (s.guarded = false → Free s) ∧
      (s.guarded = true → ∃ start, BeganOn first steps start ∧ Held s start) := by
  intro s
  have standing : Standing first steps s := standing_after first steps granted
  -- from here on only how the session stands counts, not how it came about
  clear_value s
  cases standing with
  | free contents =>
    refine ⟨rfl, fun _ => free_opened contents, ?_⟩
    intro guarded
    cases guarded
  | @held start contents began =>
    refine ⟨rfl, ?_, fun _ => ⟨start, began, held_within start contents⟩⟩
    intro unguarded
    cases unguarded

theorem ownership_sample :
    let steps : List (SessionStep Ledger Ledger.Answer) :=
      [.begin, .runIn (Ledger.insert 1), .commit none, .begin, .run (Ledger.insert 2),
        .runIn (Ledger.insert 3)]
    let s := (opened []).after steps
    s.connection.contents = [1, 3] ∧ s.drop = (true, opened [1]) ∧
      s.begin = (.error (.execution "BEGIN" [] heldByTransaction), s) := by
  intro steps s
  have granted : steps.all SessionStep.granted = true := rfl
  obtain ⟨-, -, guarded⟩ := ownership [] (List.all_eq_true.mp granted)
  obtain ⟨start, -, held⟩ := guarded rfl
  have began : [1] = start := congrArg (fun r => r.2.connection.contents) held.drop
  subst began
  exact ⟨rfl, held.drop, held.begin_refused⟩

end Session
end Joinery
