import Joinery.Chain.Basic
import Joinery.Proofs.Sql.Plan

/-!
Chains that joining leads to. What is checked when a store is attached is kept by every
further one: the stores of a chain share its source, no two have one alias, there is a
letter for each, and an expression names none but an earlier store.
-/
namespace Joinery.Chain
open Sql

variable {ρ : Type}

/-- The chain was begun at the first of the stores and joined with the others in order. -/
inductive Built : List (Store ρ) → Chain ρ → Prop where
  | begin (store : Store ρ) (criteria : Option Criteria) (aliasName : Option String) :
    Built [store] (begin store criteria aliasName)
  | join {stores : List (Store ρ)} {c e : Chain ρ} {store : Store ρ} {how : JoinCriteria}
    (before : Built stores c) (joined : c.join store how = .ok e) : Built (stores ++ [store]) e

variable {stores : List (Store ρ)} {c e : Chain ρ} {store : Store ρ} {how : JoinCriteria}

def attached (store : Store ρ) (how : JoinCriteria) : Link ρ :=
  ⟨Member.joined store.mapping how, store.records⟩

theorem join_ok (joined : c.join store how = .ok e) :
    c.source = store.source ∧ c.length < maxStores ∧
      (attached store how).member.aliasName ∉ c.aliases ∧
      (∀ x ∈ how.on, x.otherAlias ∈ c.aliases) ∧
      e.source = c.source ∧ e.links = c.links ++ [attached store how] := by
  unfold Chain.join at joined
  cases checked : c.joinFault store how with
  | some fault =>
    rw [checked] at joined
    cases joined
  | none =>
    rw [checked] at joined
    cases joined
    unfold joinFault at checked
    split at checked
    · cases checked
    · rename_i same
      split at checked
      · cases checked
      · rename_i room
        dsimp only at checked
        split at checked
        · cases checked
        · rename_i new
          have named := List.find?_eq_none.mp (Option.map_eq_none_iff.mp checked)
          refine ⟨Decidable.not_not.mp same, by omega, new, ?_, rfl, rfl⟩
          intro x member
          simpa using named x member

theorem members_join (joined : c.join store how = .ok e) :
    e.members = c.members ++ [Member.joined store.mapping how] := by
  obtain ⟨-, -, -, -, -, links⟩ := join_ok joined
  rw [members, links, List.map_append]
  rfl

theorem aliases_join (joined : c.join store how = .ok e) :
    e.aliases = c.aliases ++ [(attached store how).member.aliasName] := by
  rw [aliases, members_join joined, List.map_append]
  rfl

theorem length_members (c : Chain ρ) : c.members.length = c.length := by
  rw [members, List.length_map, length]

theorem length_aliases (c : Chain ρ) : c.aliases.length = c.length := by
  rw [aliases, List.length_map, length_members]

structure WellScoped (stores : List (Store ρ)) (c : Chain ρ) : Prop where
  begun : 1 ≤ c.length
  few : c.length ≤ maxStores
  aliases_nodup : c.aliases.Nodup
  records : c.links.map Link.records = stores.map Store.records
  sources : ∀ s ∈ stores, s.source = c.source
  earlier : ∀ (i : Nat) (l : Link ρ), c.links[i]? = some l →
    ∀ x ∈ l.member.on, ∃ j < i, c.aliases[j]? = some x.otherAlias

theorem wellScoped_begin (store : Store ρ) (criteria : Option Criteria)
    (aliasName : Option String) : WellScoped [store] (begin store criteria aliasName) where
  begun := Nat.le_refl 1
  few := by
    change 1 ≤ 26
    decide
  aliases_nodup := List.pairwise_singleton _ _
  records := rfl
  sources s member := by
    rw [List.mem_singleton.mp member]
    rfl
  earlier i l found x member := by
    -- the first store is attached to none
    cases i with
    | zero =>
      cases found
      cases member
    | succ i => cases found

theorem found_in_concat {α : Type} {xs : List α} {x y : α} {i : Nat}
    (found : (xs ++ [x])[i]? = some y) : xs[i]? = some y ∨ (i = xs.length ∧ x = y) := by
  rcases Nat.lt_or_ge i xs.length with before | beyond
  · rw [List.getElem?_append_left before] at found
    exact .inl found
  · rw [List.getElem?_append_right beyond, List.getElem?_singleton] at found
    split at found
    · exact .inr ⟨by omega, Option.some.inj found⟩
    · cases found

theorem wellScoped_join (sound : WellScoped stores c) (joined : c.join store how = .ok e) :
    WellScoped (stores ++ [store]) e := by
  obtain ⟨same, room, new, named, source, links⟩ := join_ok joined
  have length : e.length = c.length + 1 := by
    rw [Chain.length, links, List.length_append]
    rfl
  have aliases := aliases_join joined
  refine ⟨by omega, by omega, ?_, ?_, ?_, ?_⟩
  · rw [aliases]
    exact Mapping.nodup_snoc sound.aliases_nodup new
  · rw [links, List.map_append, List.map_append, sound.records]
    rfl
  · intro s member
    rw [source]
    rcases List.mem_append.mp member with old | last
    · exact sound.sources s old
    · rw [List.mem_singleton.mp last]
      exact same.symm
  · intro i l found x member
    have within (j : Nat) (less : j < c.length) : e.aliases[j]? = c.aliases[j]? := by
      rw [aliases, List.getElem?_append_left (by rw [length_aliases]; exact less)]
    rw [links] at found
    -- the stores before keep their places, and the new one names only those
    rcases found_in_concat found with old | ⟨rfl, rfl⟩
    · obtain ⟨inside, -⟩ := List.getElem?_eq_some_iff.mp old
      have bound : i < c.length := inside
      obtain ⟨j, less, stands⟩ := sound.earlier i l old x member
      exact ⟨j, less, (within j (by omega)).trans stands⟩
    · obtain ⟨j, less, stands⟩ := List.mem_iff_getElem.mp (named x member)
      have bound : j < c.length := length_aliases c ▸ less
      refine ⟨j, bound, (within j bound).trans ?_⟩
      rw [List.getElem?_eq_getElem less, stands]

theorem Built.wellScoped (built : Built stores c) : WellScoped stores c := by
  induction built with
  | begin store criteria aliasName => exact wellScoped_begin store criteria aliasName
  | join before joined sound => exact wellScoped_join sound joined

theorem Built.mapped (built : Built stores c) :
    ∀ l ∈ c.links, l.member.mapping = l.records.mapping := by
  induction built with
  | begin store criteria aliasName =>
    intro l member
    rw [List.mem_singleton.mp member]
    rfl
  | join before joined mapped =>
    obtain ⟨-, -, -, -, -, links⟩ := join_ok joined
    intro l member
    rw [links] at member
    rcases List.mem_append.mp member with old | last
    · exact mapped l old
    · rw [List.mem_singleton.mp last]
      rfl

theorem unattached_of_memberFault {seen : List String} (some_seen : seen ≠ []) {ms : List Member}
    (apart : (seen ++ ms.map Member.aliasName).Nodup) {fault : Fault}
    (found : memberFault seen ms = some fault) :
    ∃ m ∈ ms, (fault = .joinTypeMissing m.aliasName ∧ m.joinType = none) ∨
      (fault = .joinConditionMissing m.aliasName ∧ m.on = []) := by
  induction ms generalizing seen with
  | nil => cases found
  | cons m rest ih =>
    unfold memberFault at found
    split at found
    · -- no alias is taken twice in a chain, so the first check cannot be what fails
      rename_i taken
      have twice := (List.nodup_append.mp apart).2.2 m.aliasName taken m.aliasName (by simp)
      exact absurd rfl twice
    · split at found
      · rename_i untyped
        cases found
        exact ⟨m, List.mem_cons_self, .inl ⟨rfl, untyped.2⟩⟩
      · split at found
        · rename_i conditionless
          cases found
          exact ⟨m, List.mem_cons_self, .inr ⟨rfl, List.isEmpty_iff.mp conditionless.2⟩⟩
        · have apart' : (seen ++ [m.aliasName] ++ rest.map Member.aliasName).Nodup := by
            rwa [List.append_assoc]
          obtain ⟨m', member, why⟩ := ih (by simp) apart' found
          exact ⟨m', List.mem_cons_of_mem m member, why⟩

theorem WellScoped.fault (sound : WellScoped stores c) {fault : Fault}
    (refused : Plan.ofMembers c.members = .error fault) :
    (fault = .tooFewStores 1 ∧ c.length = 1) ∨
      ∃ l ∈ c.rest, (fault = .joinTypeMissing l.member.aliasName ∧ l.member.joinType = none) ∨
        (fault = .joinConditionMissing l.member.aliasName ∧ l.member.on = []) := by
  have begun := sound.begun
  have few := sound.few
  have count := length_members c
  unfold Plan.ofMembers at refused
  split at refused
  · have one : c.length = 1 := by omega
    cases refused
    exact .inl ⟨by rw [count, one], one⟩
  · split at refused
    · omega
    · split at refused
      · rename_i found
        cases refused
        have later : memberFault [c.first.member.aliasName] (c.rest.map Link.member) = some fault := by
          simpa [members, links, memberFault] using found
        obtain ⟨m, member, why⟩ :=
          unattached_of_memberFault (by simp) sound.aliases_nodup later
        obtain ⟨l, attached, rfl⟩ := List.mem_map.mp member
        exact .inr ⟨l, attached, why⟩
      · cases refused

end Joinery.Chain
