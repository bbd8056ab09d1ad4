import Joinery.Sql.Plan

/-!
What is known of the stores of an accepted join: how many there are, that every store
but the first is attached by at least one expression, and that no two share a letter.
-/
namespace Joinery.Sql

theorem letter_injective {i j : Nat} (hi : i < maxStores) (hj : j < maxStores)
    (same : letter i = letter j) : i = j := by
  have apart : ∀ a < 26, ∀ b < 26, Char.ofNat (65 + a) = Char.ofNat (65 + b) → a = b := by decide
  have chars : Char.ofNat (65 + i % maxStores) = Char.ofNat (65 + j % maxStores) :=
    String.singleton_inj.mp same
  rw [Nat.mod_eq_of_lt hi, Nat.mod_eq_of_lt hj] at chars
  exact apart i hi j hj chars

theorem attached_of_memberFault {seen : List String} (some_seen : seen ≠ [])
    {ms : List Member} (accepted : memberFault seen ms = none) :
    ∀ m ∈ ms, m.joinType ≠ none ∧ m.on ≠ [] := by
  induction ms generalizing seen with
  | nil =>
    intro m member
    cases member
  | cons first rest ih =>
    unfold memberFault at accepted
    split at accepted
    · exact absurd accepted (by simp)
    · split at accepted
      · exact absurd accepted (by simp)
      · rename_i typed
        split at accepted
        · exact absurd accepted (by simp)
        · rename_i attached
          intro m member
          rcases List.mem_cons.mp member with rfl | later
          · refine ⟨fun untyped => typed ⟨some_seen, untyped⟩, fun empty => ?_⟩
            rw [empty] at attached
            exact attached ⟨some_seen, rfl⟩
          · exact ih (by simp) accepted m later

theorem aliases_of_memberFault {seen : List String} (apart : seen.Nodup) {ms : List Member}
    (accepted : memberFault seen ms = none) : (seen ++ ms.map Member.aliasName).Nodup := by
  induction ms generalizing seen with
  | nil => simpa using apart
  | cons m rest ih =>
    unfold memberFault at accepted
    split at accepted
    · exact absurd accepted (by simp)
    · rename_i new
      split at accepted
      · exact absurd accepted (by simp)
      · split at accepted
        · exact absurd accepted (by simp)
        · have all := ih (Mapping.nodup_snoc apart new) accepted
          rwa [List.append_assoc] at all

theorem find?_of_nodup {α : Type} {key : α → String} {xs : List α}
    (apart : (xs.map key).Nodup) {x : α}
    (member : x ∈ xs) : xs.find? (key · == key x) = some x := by
  obtain ⟨before, after, rfl⟩ := List.append_of_mem member
  have differ := (List.pairwise_append.mp (List.pairwise_map.mp apart)).2.2
  refine List.find?_eq_some_iff_append.mpr ⟨by simp, before, after, rfl, fun o earlier => ?_⟩
  simpa using differ o earlier x List.mem_cons_self

theorem Seat.column_ok {s : Seat} {property : String} {c : Column} :
    s.column property = .ok c ↔ c ∈ s.member.mapping.columns ∧ c.property = property := by
  unfold Seat.column Mapping.column?
  constructor
  · intro found
    split at found
    · rename_i first
      cases found
      exact ⟨List.mem_of_find?_eq_some first, by simpa using List.find?_some first⟩
    · cases found
  · rintro ⟨member, rfl⟩
    rw [find?_of_nodup s.member.mapping.properties_nodup member]

theorem Seat.column_error {s : Seat} {property : String} {fault : Fault} :
    s.column property = .error fault ↔ (∀ c ∈ s.member.mapping.columns, c.property ≠ property) ∧
      fault = .storePropertyNotMapped s.member.aliasName s.member.mapping.table property := by
  unfold Seat.column Mapping.column?
  cases found : s.member.mapping.columns.find? (·.property == property) with
  | some c =>
    have same : c.property = property := by simpa using List.find?_some found
    have member := List.mem_of_find?_eq_some found
    simpa using fun absent => absurd same (absent c member)
  | none =>
    have absent : ∀ c ∈ s.member.mapping.columns, c.property ≠ property := by simpa using found
    rw [and_iff_right absent]
    exact ⟨fun same => (Except.error.inj same).symm, fun same => congrArg Except.error same.symm⟩

namespace Plan
variable {members : List Member} {p : Plan}

theorem ofMembers_ok (accepted : Plan.ofMembers members = .ok p) :
    p = ⟨members⟩ ∧ 2 ≤ members.length ∧ members.length ≤ maxStores ∧
      memberFault [] members = none := by
  unfold Plan.ofMembers at accepted
  split at accepted
  · exact absurd accepted (by simp)
  · split at accepted
    · exact absurd accepted (by simp)
    · split at accepted
      · exact absurd accepted (by simp)
      · rename_i enough few sound
        cases accepted
        exact ⟨rfl, by omega, by omega, sound⟩

theorem map_member_seatsFrom (index : Nat) (ms : List Member) :
    (seatsFrom index ms).map Seat.member = ms := by
  induction ms generalizing index with
  | nil => rfl
  | cons m rest ih => rw [seatsFrom, List.map_cons, ih]

theorem map_member_seats (p : Plan) : p.seats.map Seat.member = p.members :=
  map_member_seatsFrom 0 p.members

theorem map_index_seatsFrom (index : Nat) (ms : List Member) :
    (seatsFrom index ms).map Seat.index = List.range' index ms.length := by
  induction ms generalizing index with
  | nil => rfl
  | cons m rest ih => rw [seatsFrom, List.map_cons, ih, List.length_cons, List.range'_succ]

theorem getElem?_seatsFrom (index i : Nat) (ms : List Member) :
    (seatsFrom index ms)[i]? = ms[i]?.map (Seat.mk (index + i)) := by
  induction ms generalizing index i with
  | nil => rfl
  | cons m rest ih =>
    cases i with
    | zero => rfl
    | succ i =>
      have shift : index + (i + 1) = index + 1 + i := by omega
      rw [seatsFrom, List.getElem?_cons_succ, List.getElem?_cons_succ, ih, shift]

theorem seatsFrom_concat (index : Nat) (ms : List Member) (m : Member) :
    seatsFrom index (ms ++ [m]) = seatsFrom index ms ++ [⟨index + ms.length, m⟩] := by
  induction ms generalizing index with
  | nil => rfl
  | cons first rest ih =>
    have shift : index + 1 + rest.length = index + (first :: rest).length := by
      rw [List.length_cons]
      omega
    rw [List.cons_append, seatsFrom, ih, shift]
    rfl

theorem getElem?_seats (p : Plan) (i : Nat) : p.seats[i]? = p.members[i]?.map (Seat.mk i) := by
  have general := getElem?_seatsFrom 0 i p.members
  rwa [Nat.zero_add] at general

theorem resolve_ok {aliasName : String} {s : Seat} (found : p.resolve aliasName = .ok s) :
    p.members[s.index]? = some s.member ∧ s.member.aliasName = aliasName := by
  unfold Plan.resolve at found
  split at found
  · rename_i o first
    cases found
    obtain ⟨i, inside⟩ := List.getElem?_of_mem (List.mem_of_find?_eq_some first)
    rw [getElem?_seats] at inside
    obtain ⟨m, member, rfl⟩ := Option.map_eq_some_iff.mp inside
    exact ⟨member, by simpa using List.find?_some first⟩
  · cases found

theorem seats_joined (accepted : Plan.ofMembers members = .ok p) :
    ∀ s ∈ p.seats.tail, s.member.joinType ≠ none ∧ s.member.on ≠ [] := by
  obtain ⟨rfl, enough, -, sound⟩ := ofMembers_ok accepted
  cases members with
  | nil =>
    intro s member
    cases member
  | cons first rest =>
    have later : memberFault [first.aliasName] rest = none := by
      simpa [memberFault] using sound
    intro s member
    have inside : s.member ∈ (seatsFrom 1 rest).map Seat.member := List.mem_map_of_mem member
    rw [map_member_seatsFrom] at inside
    exact attached_of_memberFault (by simp) later s.member inside

theorem seats_attached (accepted : Plan.ofMembers members = .ok p) :
    ∀ s ∈ p.seats.tail, s.member.on ≠ [] :=
  fun s member => (seats_joined accepted s member).2

theorem resolve_own (accepted : Plan.ofMembers members = .ok p) :
    ∀ s ∈ p.seats, p.resolve s.member.aliasName = .ok s := by
  obtain ⟨rfl, -, -, sound⟩ := ofMembers_ok accepted
  have apart : ((Plan.seats ⟨members⟩).map fun s => s.member.aliasName).Nodup := by
    have aliases : (members.map Member.aliasName).Nodup := aliases_of_memberFault .nil sound
    rwa [← map_member_seatsFrom 0 members, List.map_map] at aliases
  intro s member
  rw [resolve, find?_of_nodup apart member]

theorem mem_seats {m : Member} : m ∈ p.members ↔ ∃ s ∈ p.seats, s.member = m := by
  rw [← p.map_member_seats, List.mem_map]

theorem resolve_member (accepted : Plan.ofMembers members = .ok p) {m : Member}
    (member : m ∈ members) : ∃ s, p.resolve m.aliasName = .ok s ∧ s.member = m := by
  have own := resolve_own accepted
  obtain ⟨rfl, -, -, -⟩ := ofMembers_ok accepted
  obtain ⟨s, inside, rfl⟩ := mem_seats.mp member
  exact ⟨s, own s inside, rfl⟩

theorem resolve_error {aliasName : String} {fault : Fault} :
    p.resolve aliasName = .error fault ↔
      (∀ m ∈ p.members, m.aliasName ≠ aliasName) ∧ fault = .unknownAlias aliasName := by
  unfold resolve
  cases found : p.seats.find? (·.member.aliasName == aliasName) with
  | some s =>
    have same : s.member.aliasName = aliasName := by simpa using List.find?_some found
    have member : s.member ∈ p.members := mem_seats.mpr ⟨s, List.mem_of_find?_eq_some found, rfl⟩
    simpa using fun absent => absurd same (absent s.member member)
  | none =>
    have absent : ∀ m ∈ p.members, m.aliasName ≠ aliasName := by
      intro m member
      obtain ⟨s, inside, rfl⟩ := mem_seats.mp member
      simpa using List.find?_eq_none.mp found s inside
    rw [and_iff_right absent]
    exact ⟨fun same => (Except.error.inj same).symm, fun same => congrArg Except.error same.symm⟩

theorem length_seats (p : Plan) : p.seats.length = p.members.length := by
  have same := congrArg List.length p.map_member_seats
  rwa [List.length_map] at same

theorem seats_ne_nil (accepted : Plan.ofMembers members = .ok p) : p.seats ≠ [] := by
  obtain ⟨rfl, enough, -, -⟩ := ofMembers_ok accepted
  intro empty
  have length := length_seats ⟨members⟩
  rw [empty, List.length_nil] at length
  dsimp only at length
  omega

theorem letters_apart (accepted : Plan.ofMembers members = .ok p) :
    p.seats.Pairwise fun s s' => s.letter ≠ s'.letter := by
  obtain ⟨rfl, -, few, -⟩ := ofMembers_ok accepted
  have indices : (seatsFrom 0 members).map Seat.index = List.range' 0 members.length :=
    map_index_seatsFrom 0 members
  have ordered : ((seatsFrom 0 members).map Seat.index).Pairwise (· < ·) := by
    rw [indices]
    exact List.pairwise_lt_range'
  have bounded : ∀ s ∈ seatsFrom 0 members, s.index < maxStores := by
    intro s member
    have inside : s.index ∈ (seatsFrom 0 members).map Seat.index := List.mem_map_of_mem member
    rw [indices, List.mem_range'_1] at inside
    omega
  apply (List.pairwise_map.mp ordered).imp_of_mem
  intro s s' first second before same
  have := letter_injective (bounded s first) (bounded s' second) same
  omega

end Plan
end Joinery.Sql
