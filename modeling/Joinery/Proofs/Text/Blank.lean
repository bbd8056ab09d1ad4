import Joinery.Text.Blank
import Mathlib.Data.List.TakeWhile

/-!
Runs of characters of one kind, and blanks around a text. What is trimmed from a text is the
blanks before and after what is left.
-/
namespace Joinery.Text

theorem run_of_all {p : Char → Bool} {run rest : List Char} (inside : ∀ c ∈ run, p c = true)
    (stop : ∀ c ∈ rest.head?, p c = false) :
    (run ++ rest).takeWhile p = run ∧ (run ++ rest).dropWhile p = rest := by
  rw [List.takeWhile_append_of_pos inside, List.dropWhile_append_of_pos inside]
  cases rest with
  | nil => simp
  | cons c rest => simp [stop c rfl]

theorem head_dropWhile {p : Char → Bool} (s : List Char) :
    ∀ c ∈ (s.dropWhile p).head?, p c = false := by
  intro c head
  have stopped := List.head?_dropWhile_not p s
  rw [head] at stopped
  exact stopped

def Blanks (s : List Char) : Prop := ∀ c ∈ s, isBlank c = true

instance decidableBlanks (s : List Char) : Decidable (Blanks s) :=
  List.decidableBAll (fun c => isBlank c = true) s

def Padded (core s : List Char) : Prop :=
  ∃ before after, Blanks before ∧ Blanks after ∧ s = before ++ core ++ after

theorem blanks_takeWhile (s : List Char) : Blanks (s.takeWhile isBlank) :=
  fun _ member => List.mem_takeWhile_imp member

theorem Blanks.reverse {s : List Char} (blanks : Blanks s) : Blanks s.reverse :=
  fun c member => blanks c (List.mem_reverse.mp member)

theorem padded_trim (s : List Char) : Padded (trim s) s := by
  refine ⟨s.takeWhile isBlank, ((trimStart s).reverse.takeWhile isBlank).reverse,
    blanks_takeWhile s, (blanks_takeWhile _).reverse, ?_⟩
  have inner : trim s ++ ((trimStart s).reverse.takeWhile isBlank).reverse = trimStart s := by
    rw [trim, trimEnd, ← List.reverse_append, List.takeWhile_append_dropWhile, List.reverse_reverse]
  rw [List.append_assoc, inner, trimStart, List.takeWhile_append_dropWhile]

theorem trim_of_padded {core s : List Char} (solid : ∀ c ∈ core, isBlank c = false)
    (padded : Padded core s) : trim s = core := by
  obtain ⟨before, after, blanks, blanks', rfl⟩ := padded
  cases core with
  | nil =>
    have all : ∀ c ∈ before ++ [] ++ after, isBlank c = true := by
      intro c member
      rw [List.append_nil] at member
      exact (List.mem_append.mp member).elim (blanks c) (blanks' c)
    rw [trim, trimStart, List.dropWhile_eq_nil_iff.mpr all]
    rfl
  | cons c core =>
    have start : ∀ d ∈ (c :: core ++ after).head?, isBlank d = false := by
      intro d head
      cases head
      exact solid c List.mem_cons_self
    have stop : ∀ d ∈ (c :: core).reverse.head?, isBlank d = false := by
      intro d head
      exact solid d (List.mem_reverse.mp (List.mem_of_mem_head? head))
    rw [trim, trimStart, List.append_assoc, (run_of_all blanks start).2, trimEnd,
      List.reverse_append, (run_of_all blanks'.reverse stop).2, List.reverse_reverse]

end Joinery.Text
