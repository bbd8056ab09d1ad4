import Joinery.Chain.Basic
import Joinery.Proofs.Chain.Reachable

/-!
Results built from rows. The result of a chain is the left-nested pairing of what its
stores read, or the failure of the first store that fails; one more store pairs one more
record onto the result. Two readings of one row differ at most in the statement that a
failure of execution carries.
-/
namespace Joinery

def Joined.nested {ρ : Type} : List (Option ρ) → Joined ρ
  | [] => .single none
  | first :: rest => rest.foldl .pair (.single first)

/-- An error without the statement and the parameters it was found under. -/
def Error.bare : Error → Error
  | .execution _ _ cause => .execution "" [] cause
  | e => e

def AgreeBare {α : Type} (x y : Except Error α) : Prop :=
  x.mapError Error.bare = y.mapError Error.bare

section Agreement
variable {α : Type} {x y : Except Error α}

theorem agreeBare_refl (x : Except Error α) : AgreeBare x x := rfl

theorem AgreeBare.of_ok (agree : AgreeBare x y) {v : α} (ok : y = .ok v) : x = .ok v := by
  subst ok
  cases x with
  | error e => cases agree
  | ok w => exact congrArg Except.ok (Except.ok.inj agree)

theorem AgreeBare.of_error (agree : AgreeBare x y) {e : Error} (failed : x = .error e) :
    ∃ e', y = .error e' ∧ e'.bare = e.bare := by
  subst failed
  cases y with
  | error e' => exact ⟨e', rfl, (Except.error.inj agree).symm⟩
  | ok w => cases agree

theorem AgreeBare.map {β : Type} (f : α → β) (agree : AgreeBare x y) :
    AgreeBare (x.map f) (y.map f) := by
  cases x with
  | error e =>
    obtain ⟨e', rfl, same⟩ := agree.of_error rfl
    exact congrArg Except.error same.symm
  | ok v =>
    cases y with
    | error e => cases agree
    | ok w =>
      cases agree
      rfl

end Agreement

namespace Reading
variable {ρ : Type} {r r' : Reading}

theorem fill_agree (sameRow : r.row = r'.row) (aliasName : String) (records : RecordMapping ρ)
    (index : Nat) (ordinals : List Nat) (record : ρ) :
    AgreeBare (r.fill aliasName records index ordinals record)
      (r'.fill aliasName records index ordinals record) := by
  induction ordinals generalizing index record with
  | nil => exact agreeBare_refl _
  | cons i rest ih =>
    unfold fill
    rw [← sameRow]
    cases r.row.isNull i with
    | error cause => rfl
    | ok isNull =>
      cases isNull with
      | true => exact ih (index + 1) record
      | false =>
        cases r.row.value i with
        | error cause => rfl
        | ok v =>
          dsimp only
          cases records.set index v record with
          | error cause => rfl
          | ok record => exact ih (index + 1) record

theorem read_agree (sameRow : r.row = r'.row) {index : Nat}
    (sameStore : r.layout.stores[index]? = r'.layout.stores[index]?) (records : RecordMapping ρ) :
    AgreeBare (r.read index records) (r'.read index records) := by
  unfold read
  rw [← sameRow, ← sameStore]
  cases r.layout.stores[index]? with
  | none => rfl
  | some store =>
    dsimp only
    cases r.row.anyPresent (store.presence.filterMap fun p => store.ordinals[p]?) with
    | error cause => rfl
    | ok present =>
      cases present with
      | false => rfl
      | true =>
        exact (fill_agree sameRow store.aliasName records 0 store.ordinals records.blank).map some

end Reading

namespace Chain
variable {ρ : Type}

def reads (c : Chain ρ) (r : Reading) : List (Except Error (Option ρ)) :=
  c.links.zipIdx.map fun p => r.read p.2 p.1.records

def inOrder {α : Type} : List (Except Error α) → Except Error (List α)
  | [] => .ok []
  | .error e :: _ => .error e
  | .ok v :: rest => (inOrder rest).map (v :: ·)

theorem inOrder_ok {α : Type} {xs : List (Except Error α)} {vs : List α} :
    inOrder xs = .ok vs ↔ xs = vs.map .ok := by
  induction xs generalizing vs with
  | nil => cases vs <;> simp [inOrder]
  | cons x rest ih =>
    cases x with
    | error e => cases vs <;> simp [inOrder]
    | ok v =>
      have step (us : List α) : inOrder (.ok v :: rest) = .ok (v :: us) ↔ inOrder rest = .ok us := by
        cases others : inOrder rest <;> simp [inOrder, others, Except.map]
      cases vs with
      | nil => cases others : inOrder rest <;> simp [inOrder, others, Except.map]
      | cons w us =>
        by_cases same : v = w
        · subst same
          rw [step, ih, List.map_cons, List.cons.injEq, and_iff_right rfl]
        · cases others : inOrder rest <;> simp [inOrder, others, Except.map, same]

theorem inOrder_error {α : Type} {xs : List (Except Error α)} {e : Error} :
    inOrder xs = .error e ↔
      ∃ k : Nat, xs[k]? = some (.error e) ∧ ∀ j < k, ∃ v, xs[j]? = some (.ok v) := by
  induction xs with
  | nil => simp [inOrder]
  | cons x rest ih =>
    cases x with
    | error e' =>
      constructor
      · intro failed
        cases failed
        exact ⟨0, rfl, fun j less => absurd less (Nat.not_lt_zero j)⟩
      · rintro ⟨k, failed, before⟩
        -- the failure is here or, behind a value that was read, one place further on
        cases k with
        | zero =>
          cases failed
          rfl
        | succ k =>
          obtain ⟨v, first⟩ := before 0 (Nat.succ_pos k)
          cases first
    | ok v =>
      have step : inOrder (.ok v :: rest) = .error e ↔ inOrder rest = .error e := by
        cases others : inOrder rest <;> simp [inOrder, others, Except.map]
      rw [step, ih]
      constructor
      · rintro ⟨k, failed, before⟩
        refine ⟨k + 1, failed, fun j less => ?_⟩
        cases j with
        | zero => exact ⟨v, rfl⟩
        | succ j => exact before j (by omega)
      · rintro ⟨k, failed, before⟩
        cases k with
        | zero => cases failed
        | succ k => exact ⟨k, failed, fun j less => before (j + 1) (by omega)⟩

theorem extend_eq (read : Nat → RecordMapping ρ → Except Error (Option ρ)) (index : Nat)
    (acc : Joined ρ) (ls : List (Link ρ)) :
    extend read index acc ls =
      (inOrder ((ls.zipIdx index).map fun p => read p.2 p.1.records)).map
        fun records => records.foldl .pair acc := by
  induction ls generalizing index acc with
  | nil => rfl
  | cons l rest ih =>
    rw [List.zipIdx_cons, List.map_cons, extend]
    cases read index l.records with
    | error e => rfl
    | ok record =>
      dsimp only
      rw [ih, inOrder]
      cases inOrder ((rest.zipIdx (index + 1)).map fun p => read p.2 p.1.records) <;> rfl

theorem build_eq (c : Chain ρ) (r : Reading) :
    c.build r = (inOrder (c.reads r)).map Joined.nested := by
  unfold reads links
  rw [List.zipIdx_cons, List.map_cons]
  unfold build
  cases r.read 0 c.first.records with
  | error e => rfl
  | ok record =>
    dsimp only
    rw [extend_eq, inOrder]
    cases inOrder ((c.rest.zipIdx (0 + 1)).map fun p => r.read p.2 p.1.records) <;> rfl

theorem build_ok {c : Chain ρ} {r : Reading} {x : Joined ρ} :
    c.build r = .ok x ↔ ∃ records, c.reads r = records.map .ok ∧ x = .nested records := by
  rw [build_eq]
  constructor
  · intro built
    cases all : inOrder (c.reads r) with
    | error e =>
      rw [all] at built
      cases built
    | ok records =>
      rw [all] at built
      cases built
      exact ⟨records, inOrder_ok.mp all, rfl⟩
  · rintro ⟨records, all, rfl⟩
    rw [inOrder_ok.mpr all]
    rfl

theorem build_error {c : Chain ρ} {r : Reading} {e : Error} :
    c.build r = .error e ↔ ∃ k : Nat, (c.reads r)[k]? = some (.error e) ∧
      ∀ j < k, ∃ record, (c.reads r)[j]? = some (.ok record) := by
  rw [build_eq, ← inOrder_error]
  cases inOrder (c.reads r) <;> simp [Except.map]

theorem extend_concat (read : Nat → RecordMapping ρ → Except Error (Option ρ)) (index : Nat)
    (acc : Joined ρ) (ls : List (Link ρ)) (l : Link ρ) :
    extend read index acc (ls ++ [l]) =
      (extend read index acc ls).bind fun left =>
        (read (index + ls.length) l.records).map (Joined.pair left) := by
  induction ls generalizing index acc with
  | nil =>
    rw [List.nil_append, extend, extend]
    change _ = (read index l.records).map (Joined.pair acc)
    cases read index l.records <;> rfl
  | cons first rest ih =>
    rw [List.cons_append, extend, extend]
    cases read index first.records with
    | error e => rfl
    | ok record =>
      have shift : index + 1 + rest.length = index + (first :: rest).length := by
        rw [List.length_cons]
        omega
      dsimp only
      rw [ih, shift]

variable {c e : Chain ρ} {store : Store ρ} {how : JoinCriteria}

theorem build_join (joined : c.join store how = .ok e) (r : Reading) :
    e.build r = (c.build r).bind fun left =>
      (r.read c.length store.records).map (Joined.pair left) := by
  obtain ⟨-, -, -, -, -, links⟩ := join_ok joined
  have parts : e.first :: e.rest = c.first :: (c.rest ++ [attached store how]) := links
  obtain ⟨sameFirst, sameRest⟩ := List.cons.inj parts
  have index : 1 + c.rest.length = c.length := Nat.add_comm 1 c.rest.length
  unfold build
  rw [sameFirst, sameRest]
  cases r.read 0 c.first.records with
  | error err => rfl
  | ok record =>
    dsimp only
    rw [extend_concat, index]
    rfl

theorem extend_agree {read read' : Nat → RecordMapping ρ → Except Error (Option ρ)} {index : Nat}
    (acc : Joined ρ) {ls : List (Link ρ)}
    (agree : ∀ k < index + ls.length, ∀ records, AgreeBare (read k records) (read' k records)) :
    AgreeBare (extend read index acc ls) (extend read' index acc ls) := by
  -- readings differ in the query they blame, so errors agree only without it
  induction ls generalizing index acc with
  | nil => exact agreeBare_refl _
  | cons l rest ih =>
    rw [List.length_cons] at agree
    have own := agree index (by omega) l.records
    unfold extend
    cases first : read index l.records with
    | error err =>
      obtain ⟨err', failed, same⟩ := own.of_error first
      rw [failed]
      exact congrArg Except.error same.symm
    | ok record =>
      have second : read' index l.records = .ok record := AgreeBare.of_ok own.symm first
      rw [second]
      exact ih _ fun k less => agree k (by omega)

theorem build_agree {r r' : Reading} (sameRow : r.row = r'.row)
    (sameStores : ∀ i < c.length, r.layout.stores[i]? = r'.layout.stores[i]?) :
    AgreeBare (c.build r) (c.build r') := by
  have agree : ∀ k < 1 + c.rest.length, ∀ records : RecordMapping ρ,
      AgreeBare (r.read k records) (r'.read k records) := by
    intro k less records
    have inside : k < c.length := by
      rw [Nat.add_comm] at less
      exact less
    exact Reading.read_agree sameRow (sameStores k inside) records
  have own := agree 0 (by omega) c.first.records
  unfold build
  cases first : r.read 0 c.first.records with
  | error err =>
    obtain ⟨err', failed, same⟩ := own.of_error first
    rw [failed]
    exact congrArg Except.error same.symm
  | ok record =>
    have second : r'.read 0 c.first.records = .ok record := AgreeBare.of_ok own.symm first
    rw [second]
    exact extend_agree _ agree

end Chain
end Joinery
