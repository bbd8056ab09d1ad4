import Joinery.Criteria.Basic

/-!
Truth values of conditions on rows. A comparison with null is unknown, and unknown
goes through the connectives as in SQL: it is neither accepted nor refused, and so is
its negation. A world says what the columns of a row hold, how values that are not null
compare, and which geometries contain which.
-/
namespace Joinery

inductive Truth where
  | yes | no | unknown
deriving DecidableEq, Repr

namespace Truth

def ofBool (b : Bool) : Truth := if b then yes else no

def not : Truth → Truth
  | yes => no
  | no => yes
  | unknown => unknown

def and : Truth → Truth → Truth
  | no, _ => no
  | _, no => no
  | yes, yes => yes
  | _, _ => unknown

def or : Truth → Truth → Truth
  | yes, _ => yes
  | _, yes => yes
  | no, no => no
  | _, _ => unknown

def signed (positive : Bool) (t : Truth) : Truth := if positive then t else t.not

@[simp] theorem not_not (t : Truth) : t.not.not = t := by
  cases t <;> rfl

@[simp] theorem not_ofBool (b : Bool) : (ofBool b).not = ofBool (!b) := by
  cases b <;> rfl

theorem not_and (t u : Truth) : (t.and u).not = t.not.or u.not := by
  cases t <;> cases u <;> rfl

theorem not_or (t u : Truth) : (t.or u).not = t.not.and u.not := by
  cases t <;> cases u <;> rfl

@[simp] theorem and_yes (t : Truth) : t.and yes = t := by
  cases t <;> rfl

@[simp] theorem yes_and (t : Truth) : yes.and t = t := by
  cases t <;> rfl

@[simp] theorem or_no (t : Truth) : t.or no = t := by
  cases t <;> rfl

theorem signed_not (positive : Bool) (t : Truth) : signed (!positive) t = (signed positive t).not := by
  cases positive <;> simp [signed]

theorem not_both_yes (t : Truth) : ¬ (t = yes ∧ t.not = yes) := by
  cases t <;> simp [not]

theorem exactly_one_yes {t : Truth} (known : t ≠ unknown) :
    (t = yes ∧ t.not ≠ yes) ∨ (t ≠ yes ∧ t.not = yes) := by
  cases t with
  | yes => exact .inl ⟨rfl, by decide⟩
  | no => exact .inr ⟨by decide, rfl⟩
  | unknown => exact absurd rfl known

end Truth

namespace Connective

def combine : Connective → Truth → Truth → Truth
  | .and => Truth.and
  | .or => Truth.or

def neutral : Connective → Truth
  | .and => .yes
  | .or => .no

def fold (c : Connective) (ts : List Truth) : Truth := ts.foldr c.combine c.neutral

@[simp] theorem fold_nil (c : Connective) : c.fold [] = c.neutral := rfl

@[simp] theorem fold_cons (c : Connective) (t : Truth) (ts : List Truth) :
    c.fold (t :: ts) = c.combine t (c.fold ts) := rfl

@[simp] theorem combine_neutral (c : Connective) (t : Truth) : c.combine t c.neutral = t := by
  cases c <;> simp [combine, neutral]

theorem fold_flipped (c : Connective) (ts : List Truth) :
    c.flipped.fold (ts.map Truth.not) = (c.fold ts).not := by
  induction ts with
  | nil => cases c <;> rfl
  | cons t ts ih =>
    rw [List.map_cons, fold_cons, ih]
    cases c
    · exact (Truth.not_and t _).symm
    · exact (Truth.not_or t _).symm

end Connective

/-- A total preorder on values, so that values of different types may count as equal, in
    which one and zero differ. -/
structure Collation where
  compare : Value → Value → Ordering
  total : Std.TransCmp compare
  one_ne_zero : compare (.integer 1) (.integer 0) ≠ .eq

theorem Collation.compare_self (c : Collation) (v : Value) : c.compare v v = .eq := by
  have := c.total
  exact Std.ReflCmp.compare_self

def Value.sortKey : Value → List Nat
  | .null => [0]
  | .integer n => [1, (n.toInt + 0x8000000000000000).toNat]
  | .real x => [2, x.bits.toNat]
  | .text s => 3 :: s.toList.map Char.toNat
  | .boolean b => [4, b.toNat]
  | .blob bytes => 5 :: bytes.map UInt8.toNat

instance : Inhabited Collation where
  default := ⟨compareOn Value.sortKey, inferInstance, by decide⟩

structure World where
  collation : Collation
  cell : (letter column : String) → Value
  inside : (geometry shape : Value) → (srid : Option Int64) → Truth

instance : Inhabited World := ⟨⟨default, fun _ _ => .null, fun _ _ _ => .unknown⟩⟩

def Relation.accepts : Relation → Ordering → Bool
  | .equal => Ordering.isEq
  | .greater => Ordering.isGT
  | .lesser => Ordering.isLT

namespace World

/-- A test of how two values compare, unknown if one of them is null. -/
def test (w : World) (accepts : Ordering → Bool) (x y : Value) : Truth :=
  if x.isNull || y.isNull then .unknown else .ofBool (accepts (w.collation.compare x y))

def oneOf (w : World) (x : Value) (vs : List Value) : Truth :=
  Connective.or.fold (vs.map (w.test Ordering.isEq x))

theorem test_not (w : World) (accepts : Ordering → Bool) (x y : Value) :
    (w.test accepts x y).not = w.test (fun o => !accepts o) x y := by
  unfold test
  split
  · rfl
  · exact Truth.not_ofBool _

end World
end Joinery
