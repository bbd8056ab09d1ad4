import Joinery.Proofs.Connection.Ownership

/-!
What a refused commit leaves behind. The guard is finished before the commit runs and goes away
without a rollback, so the transaction stays open and nothing is left to end it: no other one
can begin, and what is run on the connection becomes part of it unnoticed.
-/
namespace Joinery

namespace SessionStep
variable {σ α : Type}

def refused : SessionStep σ α → Bool
  | .commit refusal => refusal.isSome
  | _ => false

end SessionStep

namespace Session
variable {σ α : Type} {first : σ} {s : Session σ} {steps : List (SessionStep σ α)}
variable {t : SessionStep σ α}

def abandoned (start contents : σ) : Session σ := ⟨⟨contents, some start⟩, false, false⟩

/-- Nothing ends the transaction. A statement past any guard is answered as if there were none. -/
structure Stranded (s : Session σ) (start : σ) : Prop where
  begin_refused : s.begin =
    (.error (.execution "BEGIN" [] "cannot start a transaction within a transaction"), s)
  run : ∀ {β : Type} (statement : Statement σ β), s.run statement =
    (statement.answer s.connection.contents,
      abandoned start (statement.run s.connection.contents).2)
  unguarded : ∀ {β : Type} (statement : Statement σ β) (refusal : Option String),
    s.runIn statement = (none, s) ∧ s.commit refusal = (none, s) ∧ s.rollback = (none, s) ∧
      s.drop = (false, s)

theorem stranded_abandoned (start contents : σ) : Stranded (abandoned start contents) start where
  begin_refused := rfl
  run _ := rfl
  unguarded _ _ := ⟨rfl, rfl, rfl, rfl⟩

theorem abandoned_step (start contents : σ) (t : SessionStep σ α) :
    ∃ contents', (abandoned start contents).step t = abandoned start contents' := by
  cases t with
  | run statement => exact ⟨_, rfl⟩
  | begin | runIn | commit | rollback | drop => exact ⟨contents, rfl⟩

/-- There was a guard through which a commit was refused. Without one a commit reaches nothing. -/
def Refused (first : σ) (steps : List (SessionStep σ α)) : Prop :=
  ∃ before t later, steps = before ++ t :: later ∧ t.refused = true ∧
    ((opened first).after before).guarded = true

theorem Refused.concat (refused : Refused first steps) : Refused first (steps ++ [t]) := by
  obtain ⟨before, u, later, rfl, refusal, guarded⟩ := refused
  refine ⟨before, u, later ++ [t], ?_, refusal, guarded⟩
  rw [List.append_assoc, List.cons_append]

theorem refused_concat_iff : Refused first (steps ++ [t]) ↔
    Refused first steps ∨ t.refused = true ∧ ((opened first).after steps).guarded = true := by
  constructor
  · rintro ⟨before, u, later, same, refusal, guarded⟩
    -- either the refusal is the new step or it is among the old ones
    rcases List.eq_nil_or_concat later with rfl | ⟨later, v, rfl⟩
    · obtain ⟨rfl, last⟩ := List.append_inj' same rfl
      cases last
      exact .inr ⟨refusal, guarded⟩
    · rw [List.concat_eq_append, ← List.cons_append, ← List.append_assoc] at same
      exact .inl ⟨before, u, later, (List.append_inj' same rfl).1, refusal, guarded⟩
  · rintro (refused | ⟨refusal, guarded⟩)
    · exact refused.concat
    · exact ⟨steps, t, [], rfl, refusal, guarded⟩

inductive Outcome (first : σ) (steps : List (SessionStep σ α)) : Session σ → Prop where
  | free (contents : σ) (granted : ¬Refused first steps) : Outcome first steps (opened contents)
  | held (start contents : σ) (granted : ¬Refused first steps) :
    Outcome first steps (within start contents)
  | abandoned (start contents : σ) (refused : Refused first steps) :
    Outcome first steps (abandoned start contents)

theorem outcome_step (outcome : Outcome first steps s) (reached : (opened first).after steps = s) :
    Outcome first (steps ++ [t]) (s.step t) := by
  cases outcome with
  | free contents granted =>
    have granted' : ¬Refused first (steps ++ [t]) := by
      rw [refused_concat_iff, reached]
      rintro (refused | ⟨-, guarded⟩)
      · exact granted refused
      · cases guarded
    cases t with
    | begin => exact .held contents contents granted'
    | run statement => exact .free _ granted'
    | runIn | commit | rollback | drop => exact .free contents granted'
  | held start contents granted =>
    -- through a living guard a refused commit abandons the transaction, and nothing else does
    have refused_iff : Refused first (steps ++ [t]) ↔ t.refused = true := by
      rw [refused_concat_iff, reached]
      exact ⟨fun refused => (refused.resolve_left granted).1, fun refusal => .inr ⟨refusal, rfl⟩⟩
    have granted' : t.refused = false → ¬Refused first (steps ++ [t]) := by
      rw [refused_iff]
      exact ne_true_of_eq_false
    cases t with
    | begin | run => exact .held start contents (granted' rfl)
    | runIn statement => exact .held start _ (granted' rfl)
    | commit refusal =>
      cases refusal with
      | none => exact .free contents (granted' rfl)
      | some cause => exact .abandoned start contents (refused_iff.mpr rfl)
    | rollback | drop => exact .free start (granted' rfl)
  | abandoned start contents refused =>
    obtain ⟨contents', same⟩ := abandoned_step start contents t
    rw [same]
    exact .abandoned start contents' refused.concat

theorem outcome_after (first : σ) (steps : List (SessionStep σ α)) :
    Outcome first steps ((opened first).after steps) := by
  induction steps using List.reverseRecOn with
  | nil =>
    refine .free first ?_
    rintro ⟨before, t, later, same, -⟩
    simp at same
  | append_singleton steps t ih =>
    rw [after_concat]
    exact outcome_step ih rfl

/-- With no guard alive a transaction is open just if a commit was refused before, and then for
    good. -/
theorem open_unguarded_iff (first : σ) {steps : List (SessionStep σ α)} :
    let s := (opened first).after steps
    s.owned = s.guarded ∧
      (s.guarded = false ∧ s.connection.saved.isSome = true ↔ Refused first steps) ∧
      (Refused first steps → ∃ start, Stranded s start) ∧
      (¬Refused first steps → s.guarded = false → Free s) := by
  intro s
  have outcome : Outcome first steps s := outcome_after first steps
  clear_value s
  cases outcome with
  | free contents granted =>
    exact ⟨rfl, by simp [opened, granted], fun refused => absurd refused granted,
      fun _ _ => free_opened contents⟩
  | held start contents granted =>
    exact ⟨rfl, by simp [within, granted], fun refused => absurd refused granted,
      fun _ unguarded => nomatch unguarded⟩
  | abandoned start contents refused =>
    exact ⟨rfl, by simp [abandoned, refused], fun _ => ⟨start, stranded_abandoned start contents⟩,
      fun granted => absurd refused granted⟩

example :
    let steps : List (SessionStep Ledger Ledger.Answer) :=
      [.begin, .runIn (Ledger.insert 1), .commit (some "FOREIGN KEY constraint failed"),
        .run (Ledger.insert 2)]
    let s := (opened []).after steps
    s = abandoned [] [1, 2] ∧ s.drop = (false, s) ∧ s.begin.1 =
      .error (.execution "BEGIN" [] "cannot start a transaction within a transaction") :=
  ⟨rfl, rfl, rfl⟩

end Session
end Joinery
