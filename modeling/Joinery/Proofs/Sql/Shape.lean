import Joinery.Proofs.Mapping.Construction
import Joinery.Proofs.Sql.Refusal

/-!
The shape of a join. Stores are accepted when there are two to twenty-six of them, their aliases
differ and all but the first are attached. Of several flaws the one of the lowest store is told.
What is written afterwards takes the shape for granted: an alias means one store, a store has a
letter of its own, and none is found to lack a join type.
-/
namespace Joinery.Sql

structure WellShaped (members : List Member) : Prop where
  enough : 2 ≤ members.length
  few : members.length ≤ 26
  aliases : (members.map Member.aliasName).Nodup
  attached : ∀ m ∈ members.tail, m.joinType ≠ none ∧ m.on ≠ []

inductive Flaw where
  | aliasTaken | joinTypeMissing | joinConditionMissing
deriving DecidableEq, Repr

namespace Flaw

def rank : Flaw → Nat
  | .aliasTaken => 0
  | .joinTypeMissing => 1
  | .joinConditionMissing => 2

def fault (aliasName : String) : Flaw → Fault
  | .aliasTaken => .aliasTaken aliasName
  | .joinTypeMissing => .joinTypeMissing aliasName
  | .joinConditionMissing => .joinConditionMissing aliasName

/-- Whether a store has the flaw after those before it. The first is attached to nothing. -/
def Mars (before : List Member) (m : Member) : Flaw → Prop
  | .aliasTaken => ∃ o ∈ before, o.aliasName = m.aliasName
  | .joinTypeMissing => before ≠ [] ∧ m.joinType = none
  | .joinConditionMissing => before ≠ [] ∧ m.on = []

structure At (members : List Member) (i : Nat) (m : Member) (flaw : Flaw) : Prop where
  store : members[i]? = some m
  mars : flaw.Mars (members.take i) m

end Flaw

/-- The flaw of the lowest store that has one, and of its flaws the first. -/
structure FirstFlaw (members : List Member) (i : Nat) (m : Member) (flaw : Flaw) : Prop where
  here : flaw.At members i m
  lowest : ∀ j m' flaw', Flaw.At members j m' flaw' → i < j ∨ i = j ∧ flaw.rank ≤ flaw'.rank

inductive Misshapen (members : List Member) : Fault → Prop where
  | tooFew (few : members.length < 2) : Misshapen members (.tooFewStores members.length)
  | tooMany (many : 26 < members.length) : Misshapen members (.tooManyStores members.length)
  | flawed (enough : 2 ≤ members.length) (few : members.length ≤ 26) {i : Nat} {m : Member}
      {flaw : Flaw} (first : FirstFlaw members i m flaw) :
      Misshapen members (flaw.fault m.aliasName)

section Flaws
variable {members before rest : List Member} {m : Member} {flaw : Flaw} {fault : Fault}

theorem Flaw.rank_injective : Function.Injective Flaw.rank := by
  intro a b same
  cases a <;> cases b <;> first | rfl | cases same

theorem FirstFlaw.unique {i j : Nat} {m' : Member} {flaw' : Flaw}
    (first : FirstFlaw members i m flaw) (first' : FirstFlaw members j m' flaw') :
    m = m' ∧ flaw = flaw' := by
  have below := first.lowest j m' flaw' first'.here
  have above := first'.lowest i m flaw first.here
  have position : i = j := by omega
  have rank : flaw.rank = flaw'.rank := by omega
  subst position
  have store := first.here.store.symm.trans first'.here.store
  exact ⟨Option.some.inj store, Flaw.rank_injective rank⟩

def Flaw.Leads (before : List Member) (m : Member) (flaw : Flaw) : Prop :=
  flaw.Mars before m ∧ ∀ flaw', Flaw.Mars before m flaw' → flaw.rank ≤ flaw'.rank

theorem memberFault_cons (before : List Member) (m : Member) (rest : List Member) :
    (∃ flaw, Flaw.Leads before m flaw ∧
      memberFault (before.map Member.aliasName) (m :: rest) = some (flaw.fault m.aliasName)) ∨
    (∀ flaw, ¬ Flaw.Mars before m flaw) ∧
      memberFault (before.map Member.aliasName) (m :: rest) =
        memberFault ((before ++ [m]).map Member.aliasName) rest := by
  have again : m.aliasName ∈ before.map Member.aliasName ↔ Flaw.Mars before m .aliasTaken :=
    List.mem_map
  have untyped : before.map Member.aliasName ≠ [] ∧ m.joinType = none ↔
      Flaw.Mars before m .joinTypeMissing := by simp [Flaw.Mars]
  have bare : before.map Member.aliasName ≠ [] ∧ m.on.isEmpty ↔
      Flaw.Mars before m .joinConditionMissing := by simp [Flaw.Mars]
  rw [memberFault, List.map_append]
  -- the flaws are tried in the order of their rank
  by_cases taken : Flaw.Mars before m .aliasTaken
  · exact .inl ⟨.aliasTaken, ⟨taken, fun _ _ => Nat.zero_le _⟩, if_pos (again.mpr taken)⟩
  rw [if_neg (mt again.mp taken)]
  by_cases typeless : Flaw.Mars before m .joinTypeMissing
  · refine .inl ⟨.joinTypeMissing, ⟨typeless, ?_⟩, if_pos (untyped.mpr typeless)⟩
    intro flaw other
    cases flaw with
    | aliasTaken => exact absurd other taken
    | joinTypeMissing | joinConditionMissing => decide
  rw [if_neg (mt untyped.mp typeless)]
  by_cases conditionless : Flaw.Mars before m .joinConditionMissing
  · refine .inl ⟨.joinConditionMissing, ⟨conditionless, ?_⟩, if_pos (bare.mpr conditionless)⟩
    intro flaw other
    cases flaw with
    | aliasTaken => exact absurd other taken
    | joinTypeMissing => exact absurd other typeless
    | joinConditionMissing => decide
  · refine .inr ⟨?_, if_neg (mt bare.mp conditionless)⟩
    intro flaw
    cases flaw with
    | aliasTaken => exact taken
    | joinTypeMissing => exact typeless
    | joinConditionMissing => exact conditionless

theorem flawless_of_memberFault (passed : memberFault (before.map Member.aliasName) rest = none)
    (i : Nat) (store : rest[i]? = some m) (flaw : Flaw) :
    ¬ flaw.Mars (before ++ rest.take i) m := by
  induction rest generalizing before i with
  | nil => cases store
  | cons first rest ih =>
    rcases memberFault_cons before first rest with ⟨_, -, found⟩ | ⟨flawless, next⟩
    · rw [found] at passed
      cases passed
    · cases i with
      | zero =>
        cases store
        simpa using flawless flaw
      | succ i =>
        rw [next] at passed
        simpa using ih passed i store

theorem first_of_memberFault
    (found : memberFault (before.map Member.aliasName) rest = some fault) :
    ∃ i m flaw, rest[i]? = some m ∧ Flaw.Leads (before ++ rest.take i) m flaw ∧
      fault = flaw.fault m.aliasName ∧
        ∀ j < i, ∀ m', rest[j]? = some m' →
          ∀ flaw', ¬ Flaw.Mars (before ++ rest.take j) m' flaw' := by
  -- stores that were passed join those seen before, and positions shift by one
  induction rest generalizing before with
  | nil => cases found
  | cons first rest ih =>
    rcases memberFault_cons before first rest with ⟨flaw, leads, here⟩ | ⟨flawless, next⟩
    · rw [here] at found
      cases found
      refine ⟨0, first, flaw, rfl, by simpa using leads, rfl, ?_⟩
      intro j below
      exact absurd below (Nat.not_lt_zero j)
    · rw [next] at found
      obtain ⟨i, m, flaw, store, leads, same, earlier⟩ := ih found
      refine ⟨i + 1, m, flaw, store, by simpa using leads, same, ?_⟩
      intro j below m' store' flaw'
      cases j with
      | zero =>
        cases store'
        simpa using flawless flaw'
      | succ j => simpa using earlier j (by omega) m' store' flaw'

theorem memberFault_eq_some_iff :
    memberFault [] members = some fault ↔
      ∃ i m flaw, FirstFlaw members i m flaw ∧ fault = flaw.fault m.aliasName := by
  have told {fault : Fault} (found : memberFault [] members = some fault) :
      ∃ i m flaw, FirstFlaw members i m flaw ∧ fault = flaw.fault m.aliasName := by
    change memberFault (([] : List Member).map Member.aliasName) members = some fault at found
    obtain ⟨i, m, flaw, store, leads, same, earlier⟩ := first_of_memberFault found
    refine ⟨i, m, flaw, ⟨⟨store, leads.1⟩, ?_⟩, same⟩
    intro j m' flaw' other
    rcases Nat.lt_trichotomy i j with below | rfl | above
    · exact .inl below
    · have own : m = m' := Option.some.inj (store.symm.trans other.store)
      subst own
      exact .inr ⟨rfl, leads.2 flaw' other.mars⟩
    · exact absurd other.mars (earlier j above m' other.store flaw')
  refine ⟨told, ?_⟩
  -- a first flaw is unique, so the one that is told can be no other
  rintro ⟨i, m, flaw, first, rfl⟩
  cases found : memberFault [] members with
  | none =>
    change memberFault (([] : List Member).map Member.aliasName) members = none at found
    exact absurd first.here.mars (flawless_of_memberFault found i first.here.store flaw)
  | some fault =>
    obtain ⟨_, _, _, first', same⟩ := told found
    obtain ⟨rfl, rfl⟩ := first'.unique first
    rw [same]

theorem memberFault_of_attached {seen : List String}
    (aliases : (seen ++ rest.map Member.aliasName).Nodup)
    (attached : ∀ m ∈ rest, m.joinType ≠ none ∧ m.on ≠ []) : memberFault seen rest = none := by
  induction rest generalizing seen with
  | nil => rfl
  | cons m rest ih =>
    obtain ⟨typed, conditions⟩ := attached m List.mem_cons_self
    have fresh : m.aliasName ∉ seen := by
      intro again
      exact (List.nodup_append.mp aliases).2.2 _ again _ List.mem_cons_self rfl
    rw [memberFault, if_neg fresh, if_neg (typed ·.2),
      if_neg fun bare => conditions (List.isEmpty_iff.mp bare.2)]
    refine ih ?_ fun other member => attached other (List.mem_cons_of_mem m member)
    rwa [List.append_assoc]

theorem memberFault_eq_none_iff :
    memberFault [] members = none ↔ (members.map Member.aliasName).Nodup ∧
      ∀ m ∈ members.tail, m.joinType ≠ none ∧ m.on ≠ [] := by
  cases members with
  | nil => simp [memberFault]
  | cons first rest =>
    have next : memberFault [] (first :: rest) = memberFault [first.aliasName] rest := by
      simp [memberFault]
    rw [next]
    constructor
    · intro passed
      exact ⟨aliases_of_memberFault (by simp) passed,
        attached_of_memberFault (by simp) passed⟩
    · rintro ⟨aliases, attached⟩
      exact memberFault_of_attached aliases attached

end Flaws

/-- The check as it is made in one pass, from the store at position `i` on. It keeps the position
    of every alias. -/
def index : List Member → Nat → Std.HashMap String Nat → Except Fault (Std.HashMap String Nat)
  | [], _, positions => .ok positions
  | m :: rest, i, positions =>
    if m.aliasName ∈ positions then .error (.aliasTaken m.aliasName)
    else if i ≠ 0 ∧ m.joinType = none then .error (.joinTypeMissing m.aliasName)
    else if i ≠ 0 ∧ m.on.isEmpty then .error (.joinConditionMissing m.aliasName)
    else index rest (i + 1) (positions.insert m.aliasName i)

def Indexes (seen : List Member) (positions : Std.HashMap String Nat) : Prop :=
  ∀ aliasName : String, positions[aliasName]? = seen.findIdx? (·.aliasName == aliasName)

section Index
variable {members seen rest : List Member} {m : Member} {positions : Std.HashMap String Nat}
  {fault : Fault}

theorem Indexes.empty : Indexes [] ∅ := by
  intro aliasName
  simp

theorem Indexes.mem_iff (known : Indexes seen positions) (aliasName : String) :
    aliasName ∈ positions ↔ aliasName ∈ seen.map Member.aliasName := by
  rw [Std.HashMap.mem_iff_isSome_getElem?, known aliasName]
  simp

theorem Indexes.snoc (known : Indexes seen positions)
    (fresh : m.aliasName ∉ seen.map Member.aliasName) :
    Indexes (seen ++ [m]) (positions.insert m.aliasName seen.length) :=
  getElem?_insert_findIdx? known fresh

theorem index_eq (known : Indexes seen positions) :
    match memberFault (seen.map Member.aliasName) rest with
    | some fault => index rest seen.length positions = .error fault
    | none => ∃ all, index rest seen.length positions = .ok all ∧ Indexes (seen ++ rest) all := by
  -- both checks ask the same questions as long as the map knows the stores seen so far
  induction rest generalizing seen positions with
  | nil => exact ⟨positions, rfl, by rwa [List.append_nil]⟩
  | cons m rest ih =>
    have follows : seen.length ≠ 0 ↔ seen.map Member.aliasName ≠ [] := by simp
    rw [memberFault, index]
    simp only [known.mem_iff, follows]
    by_cases again : m.aliasName ∈ seen.map Member.aliasName
    · simp only [if_pos again]
    · simp only [if_neg again]
      by_cases untyped : seen.map Member.aliasName ≠ [] ∧ m.joinType = none
      · simp only [if_pos untyped]
      · simp only [if_neg untyped]
        by_cases bare : seen.map Member.aliasName ≠ [] ∧ m.on.isEmpty
        · simp only [if_pos bare]
        · simp only [if_neg bare]
          have later := ih (known.snoc again)
          simpa using later

end Index

section Accepted
variable {members : List Member} {p : Plan} {fault : Fault}

theorem ofMembers_eq_ok_iff : Plan.ofMembers members = .ok p ↔ p = ⟨members⟩ ∧ WellShaped members := by
  constructor
  · intro accepted
    obtain ⟨rfl, enough, few, sound⟩ := Plan.ofMembers_ok accepted
    obtain ⟨aliases, attached⟩ := memberFault_eq_none_iff.mp sound
    exact ⟨rfl, enough, few, aliases, attached⟩
  · rintro ⟨rfl, shape⟩
    have sound := memberFault_eq_none_iff.mpr ⟨shape.aliases, shape.attached⟩
    have few : ¬ maxStores < members.length := Nat.not_lt.mpr shape.few
    rw [Plan.ofMembers, if_neg (Nat.not_lt.mpr shape.enough), if_neg few, sound]

theorem ofMembers_eq_error_iff : Plan.ofMembers members = .error fault ↔ Misshapen members fault := by
  by_cases few : members.length < 2
  · rw [Plan.ofMembers, if_pos few, Except.error.injEq]
    constructor
    · rintro rfl
      exact .tooFew few
    · rintro (_ | _ | _)
      · rfl
      all_goals omega
  · by_cases many : maxStores < members.length
    · rw [Plan.ofMembers, if_neg few, if_pos many, Except.error.injEq]
      have many : 26 < members.length := many
      constructor
      · rintro rfl
        exact .tooMany many
      · rintro (_ | _ | _)
        · omega
        · rfl
        · omega
    · have checked : Plan.ofMembers members = .error fault ↔ memberFault [] members = some fault := by
        rw [Plan.ofMembers, if_neg few, if_neg many]
        cases memberFault [] members <;> simp
      have few' : members.length ≤ 26 := Nat.not_lt.mp many
      rw [checked, memberFault_eq_some_iff]
      constructor
      · rintro ⟨i, m, flaw, first, rfl⟩
        exact .flawed (Nat.not_lt.mp few) few' first
      · rintro (_ | _ | ⟨_, _, first⟩)
        · omega
        · omega
        · exact ⟨_, _, _, first, rfl⟩

variable (accepted : Plan.ofMembers members = .ok p)
include accepted

theorem resolve_eq_ok_iff {aliasName : String} {s : Seat} :
    p.resolve aliasName = .ok s ↔
      members[s.index]? = some s.member ∧ s.member.aliasName = aliasName := by
  have own := Plan.resolve_own accepted
  obtain ⟨rfl, -⟩ := ofMembers_eq_ok_iff.mp accepted
  constructor
  · exact Plan.resolve_ok
  · rintro ⟨store, rfl⟩
    apply own s
    apply List.mem_of_getElem? (i := s.index)
    rw [Plan.getElem?_seats, store]
    rfl

theorem index_accepted : ∃ positions, index members 0 ∅ = .ok positions ∧
    ∀ (aliasName : String) (i : Nat),
      positions[aliasName]? = some i ↔ ∃ s, p.resolve aliasName = .ok s ∧ s.index = i := by
  obtain ⟨-, shape⟩ := ofMembers_eq_ok_iff.mp accepted
  have sound := memberFault_eq_none_iff.mpr ⟨shape.aliases, shape.attached⟩
  have checked := @index_eq [] members ∅ Indexes.empty
  rw [List.map_nil, sound] at checked
  obtain ⟨positions, passed, known⟩ := checked
  refine ⟨positions, passed, ?_⟩
  intro aliasName i
  rw [known aliasName, List.nil_append, findIdx?_of_nodup shape.aliases]
  simp only [resolve_eq_ok_iff accepted]
  constructor
  · rintro ⟨m, store, named⟩
    exact ⟨⟨i, m⟩, ⟨store, named⟩, rfl⟩
  · rintro ⟨s, ⟨store, named⟩, rfl⟩
    exact ⟨s.member, store, named⟩

theorem compile_typed (d : Dialect) (request : Request) (q : Query) (aliasName : String) :
    (compile d members request q).failure ≠ some (.configuration (.joinTypeMissing aliasName)) := by
  intro failed
  rw [compile_failure accepted, refused_iff accepted] at failed
  obtain ⟨_, ⟨need, place⟩, _, cause, -, -, refused, same⟩ := failed
  cases place <;> cases refused <;> cases same

end Accepted

/-- Stores are accepted when they have the right shape and refused for their first flaw. Once they
    are accepted, aliases and letters tell them apart and no join type is missing. -/
theorem well_shaped_accepted (members : List Member) :
    ((∃ p, Plan.ofMembers members = .ok p) ↔ WellShaped members) ∧
      (∀ fault, Plan.ofMembers members = .error fault ↔ Misshapen members fault) ∧
      ∀ p, Plan.ofMembers members = .ok p →
        p.seats.map Seat.member = members ∧
        (∀ aliasName s, p.resolve aliasName = .ok s ↔
          members[s.index]? = some s.member ∧ s.member.aliasName = aliasName) ∧
        (∃ positions, index members 0 ∅ = .ok positions ∧ ∀ (aliasName : String) (i : Nat),
          positions[aliasName]? = some i ↔ ∃ s, p.resolve aliasName = .ok s ∧ s.index = i) ∧
        (p.seats.Pairwise fun s s' => s.letter ≠ s'.letter) ∧
        (∀ s ∈ p.seats.tail, s.member.joinType ≠ none) ∧
        ∀ d request q aliasName, (compile d members request q).failure ≠
          some (.configuration (.joinTypeMissing aliasName)) := by
  refine ⟨?_, fun _ => ofMembers_eq_error_iff, ?_⟩
  · simp only [ofMembers_eq_ok_iff, exists_eq_left]
  · intro p accepted
    have typed : ∀ s ∈ p.seats.tail, s.member.joinType ≠ none :=
      fun s member => (Plan.seats_joined accepted s member).1
    obtain ⟨rfl, -⟩ := ofMembers_eq_ok_iff.mp accepted
    exact ⟨Plan.map_member_seats _, fun _ _ => resolve_eq_ok_iff accepted, index_accepted accepted,
      Plan.letters_apart accepted, typed, compile_typed accepted⟩

theorem well_shaped_accepted_sample :
    let loose := { Sample.books with joinType := none, on := [] }
    Plan.ofMembers [Sample.authors, Sample.books] = .ok Sample.plan ∧
      Sample.plan.resolve "books" = .ok ⟨1, Sample.books⟩ ∧
      (compile .tsql [Sample.authors, Sample.books] .count default).failure ≠
        some (.configuration (.joinTypeMissing "books")) ∧
      Misshapen [Sample.authors, loose, Sample.authors] (.joinTypeMissing "books") := by
  intro loose
  obtain ⟨-, resolves, -, -, -, typed⟩ :=
    (well_shaped_accepted [Sample.authors, Sample.books]).2.2 Sample.plan Sample.accepted
  have refused := (well_shaped_accepted [Sample.authors, loose, Sample.authors]).2.1
  exact ⟨Sample.accepted, (resolves "books" ⟨1, Sample.books⟩).mpr ⟨rfl, rfl⟩,
    typed .tsql .count default "books", (refused _).mp rfl⟩

end Joinery.Sql
