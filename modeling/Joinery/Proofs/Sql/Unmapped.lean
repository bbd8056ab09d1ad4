import Joinery.Proofs.Sql.Refusal

/-!
Properties that no column stands for. A join that names one is refused and no text is
written, however deep it is named and in whichever part, with a single exception: a
membership in no values is written as a constant before its property is looked at.
-/
namespace Joinery.Sql
open Expression

def Member.Lacks (m : Member) (property : String) : Prop :=
  ∀ c ∈ m.mapping.columns, c.property ≠ property

/-- A node of a filter of the store `m` names a property that the store does not map, or that
    the store it compares with does not. What a membership in no values names is passed over. -/
inductive Misnames (members : List Member) (m : Member) : Expression → Prop where
  | inList {property : String} {values : List Value} {positive : Bool} (some_value : values ≠ [])
      (lacks : m.Lacks property) : Misnames members m (.inList property values positive)
  | within {property : String} {shape : Shape} {positive : Bool} (lacks : m.Lacks property) :
      Misnames members m (.within property shape positive)
  | compare {property : String} {relation : Relation} {v : Value} {positive : Bool}
      (lacks : m.Lacks property) : Misnames members m (.compare property relation v positive)
  | isNull {property : String} {positive : Bool} (lacks : m.Lacks property) :
      Misnames members m (.isNull property positive)
  | left {property other : String} {relation : Relation} {aliasName : Option String} {positive : Bool}
      (lacks : m.Lacks property) :
      Misnames members m (.compareProperty property relation aliasName other positive)
  | right {property other : String} {relation : Relation} {positive : Bool} (lacks : m.Lacks other) :
      Misnames members m (.compareProperty property relation none other positive)
  | elsewhere {property other : String} {relation : Relation} {positive : Bool} {o : Member}
      (member : o ∈ members) (lacks : o.Lacks other) :
      Misnames members m (.compareProperty property relation (some o.aliasName) other positive)

inductive JoinMisnames (members : List Member) (m : Member) : JoinExpression → Prop where
  | own {left right other : String} {relation : Relation} {otherIsLeft positive : Bool}
      (lacks : m.Lacks (if otherIsLeft then right else left)) :
      JoinMisnames members m (.properties left right relation other otherIsLeft positive)
  | other {left right : String} {relation : Relation} {otherIsLeft positive : Bool} {o : Member}
      (member : o ∈ members) (lacks : o.Lacks (if otherIsLeft then left else right)) :
      JoinMisnames members m (.properties left right relation o.aliasName otherIsLeft positive)
  | value {property : String} {v : Value} {relation : Relation} {positive : Bool} {o : Member}
      (member : o ∈ members) (lacks : o.Lacks property) :
      JoinMisnames members m (.value property v relation o.aliasName positive)

inductive Misspelt (members : List Member) : Prop where
  | filter {m : Member} (member : m ∈ members) {c : Criteria} (own : m.criteria = some c)
      {e node : Expression} (item : e ∈ c.items) (inside : Node node e)
      (misnames : Misnames members m node) : Misspelt members
  | join {m : Member} (member : m ∈ members.tail) {e : JoinExpression} (item : e ∈ m.on)
      (misnames : JoinMisnames members m e) : Misspelt members

def Lacking (members : List Member) (need : Need) : Prop :=
  ∃ o ∈ members, ∃ property, need = .mapped o.aliasName property ∧ o.Lacks property

theorem not_lacking {members : List Member} {need : Need}
    (other : ∀ aliasName property, need ≠ .mapped aliasName property) : ¬ Lacking members need := by
  rintro ⟨o, -, property, same, -⟩
  exact other o.aliasName property same

theorem not_met_of_lacking {d : Dialect} {members : List Member} {need : Need}
    (lacking : Lacking members need) : ¬ need.Met d members := by
  obtain ⟨o, member, property, rfl, lacks⟩ := lacking
  intro met
  obtain ⟨c, mapped, same⟩ := met o member rfl
  exact lacks c mapped same

variable {members : List Member} {m : Member}

theorem needs_of_misnames (member : m ∈ members) {node : Expression}
    (misnames : Misnames members m node) : ∃ need ∈ needs m.aliasName node, Lacking members need := by
  cases misnames with
  | inList some_value lacks =>
    rename_i property values positive
    refine ⟨.mapped m.aliasName property, ?_, m, member, property, rfl, lacks⟩
    rw [needs, if_neg fun empty => some_value (List.isEmpty_iff.mp empty)]
    exact List.mem_cons_self
  | within lacks => exact ⟨_, List.mem_cons_self, m, member, _, rfl, lacks⟩
  | compare lacks => exact ⟨_, List.mem_cons_self, m, member, _, rfl, lacks⟩
  | isNull lacks => exact ⟨_, List.mem_cons_self, m, member, _, rfl, lacks⟩
  | left lacks =>
    rename_i aliasName positive
    refine ⟨_, ?_, m, member, _, rfl, lacks⟩
    cases aliasName <;> simp [needs]
  | right lacks => exact ⟨_, by simp [needs], m, member, _, rfl, lacks⟩
  | elsewhere other lacks => exact ⟨_, by simp [needs], _, other, _, rfl, lacks⟩

theorem needs_node {own : String} {node e : Expression} (inside : Node node e) :
    needs own node ⊆ needs own e := by
  induction inside with
  | self => exact List.Subset.refl _
  | item member inside ih =>
    intro need own_need
    rw [needs, needsAll_eq_flatMap]
    exact List.mem_flatMap.mpr ⟨_, member, ih own_need⟩

theorem needs_of_joinMisnames (member : m ∈ members) {e : JoinExpression}
    (misnames : JoinMisnames members m e) :
    ∃ need ∈ joinNeeds m.aliasName e, Lacking members need := by
  cases misnames with
  | own lacks =>
    rename_i otherIsLeft positive
    refine ⟨_, ?_, m, member, _, rfl, lacks⟩
    cases otherIsLeft <;> simp [joinNeeds]
  | other inside lacks =>
    rename_i otherIsLeft positive o
    refine ⟨_, ?_, o, inside, _, rfl, lacks⟩
    cases otherIsLeft <;> simp [joinNeeds]
  | value inside lacks => exact ⟨_, by simp [joinNeeds], _, inside, _, rfl, lacks⟩

theorem demands_of_misspelt (misspelt : Misspelt members) (request : Request) :
    ∃ x ∈ demands members request, Lacking members x.need := by
  have shared {x : Demand} (among : x ∈ members.tail.flatMap joinDemands ∨
      x ∈ members.flatMap filterDemands) : x ∈ demands members request :=
    List.mem_append_left _ (List.mem_append.mpr among)
  cases misspelt with
  | @filter m member c own e node item inside misnames =>
    obtain ⟨need, among, lacking⟩ := needs_of_misnames member misnames
    refine ⟨⟨need, some (.criteriaOf m.aliasName)⟩, shared (.inr ?_), lacking⟩
    refine List.mem_flatMap.mpr ⟨m, member, ?_⟩
    rw [filterDemands, own]
    refine List.mem_map_of_mem ?_
    rw [needsAll_eq_flatMap]
    exact List.mem_flatMap.mpr ⟨e, item, needs_node inside among⟩
  | @join m member e item misnames =>
    obtain ⟨need, among, lacking⟩ := needs_of_joinMisnames (List.mem_of_mem_tail member) misnames
    refine ⟨⟨need, some (.joinExpression e)⟩, shared (.inl ?_), lacking⟩
    refine List.mem_flatMap.mpr ⟨m, member, List.mem_append_right _ ?_⟩
    exact List.mem_flatMap.mpr ⟨e, item, List.mem_map_of_mem among⟩

theorem textless_of_failure {d : Dialect} {request : Request} {q : Query} {e : Error}
    (failed : (compile d members request q).failure = some e) :
    (compile d members request q).query.sql = "" ∨ (compile d members request q).query = q := by
  cases accepted : Plan.ofMembers members with
  | error fault =>
    right
    rw [compile, accepted]
  | ok p =>
    left
    rw [compile_eq accepted] at failed ⊢
    have stopped : (statement d p request 0).failure = some e := failed
    simp [Query.append, Query.empty, stopped]

section Accepted
variable {p : Plan} (accepted : Plan.ofMembers members = .ok p)
include accepted

theorem member_unique {o : Member} (member : m ∈ members) (other : o ∈ members)
    (same : o.aliasName = m.aliasName) : o = m := by
  obtain ⟨s, found, rfl⟩ := Plan.resolve_member accepted member
  obtain ⟨s', found', rfl⟩ := Plan.resolve_member accepted other
  rw [same] at found'
  cases found.symm.trans found'
  rfl

theorem lacks_of_own (member : m ∈ members) {property : String}
    (lacking : Lacking members (.mapped m.aliasName property)) : m.Lacks property := by
  obtain ⟨o, other, name, same, lacks⟩ := lacking
  obtain ⟨alias_same, rfl⟩ := Need.mapped.inj same
  rwa [member_unique accepted member other alias_same.symm] at lacks

theorem misnames_of_needs (member : m ∈ members) {e : Expression} {need : Need}
    (among : need ∈ needs m.aliasName e) (lacking : Lacking members need) :
    ∃ node, Node node e ∧ Misnames members m node := by
  have own (property : String) (same : need = .mapped m.aliasName property) : m.Lacks property :=
    lacks_of_own accepted member (same ▸ lacking)
  -- a need that is lacking names a property, so only the mapped ones are left
  induction e with
  | inList property values positive =>
    rw [needs] at among
    split at among
    · cases among
    · rename_i some_value
      rcases List.mem_cons.mp among with same | literal
      · have nonempty : values ≠ [] := fun empty => some_value (List.isEmpty_iff.mpr empty)
        exact ⟨_, .self _, .inList nonempty (own property same)⟩
      · obtain ⟨v, -, rfl⟩ := List.mem_map.mp literal
        exact absurd lacking (not_lacking (by simp))
  | within property shape positive =>
    rcases List.mem_cons.mp among with same | later
    · exact ⟨_, .self _, .within (own property same)⟩
    · obtain rfl := List.mem_singleton.mp later
      exact absurd lacking (not_lacking (by simp))
  | compare property relation v positive =>
    rcases List.mem_cons.mp among with same | later
    · exact ⟨_, .self _, .compare (own property same)⟩
    · obtain rfl := List.mem_singleton.mp later
      exact absurd lacking (not_lacking (by simp))
  | compareProperty property relation aliasName other positive =>
    cases aliasName with
    | none =>
      rcases List.mem_cons.mp among with same | later
      · exact ⟨_, .self _, .left (own property same)⟩
      · exact ⟨_, .self _, .right (own other (List.mem_singleton.mp later))⟩
    | some aliasName =>
      rcases List.mem_cons.mp among with rfl | later
      · exact absurd lacking (not_lacking (by simp))
      · rcases List.mem_cons.mp later with same | last
        · exact ⟨_, .self _, .left (own property same)⟩
        · obtain rfl := List.mem_singleton.mp last
          obtain ⟨o, inside, name, same, lacks⟩ := lacking
          obtain ⟨rfl, rfl⟩ := Need.mapped.inj same
          exact ⟨_, .self _, .elsewhere inside lacks⟩
  | isNull property positive =>
    exact ⟨_, .self _, .isNull (own property (List.mem_singleton.mp among))⟩
  | group connective items ih =>
    rw [needs, needsAll_eq_flatMap] at among
    obtain ⟨item, inside, deeper⟩ := List.mem_flatMap.mp among
    obtain ⟨node, below, misnames⟩ := ih item inside deeper
    exact ⟨node, .item inside below, misnames⟩

theorem joinMisnames_of_needs (member : m ∈ members) {e : JoinExpression} {need : Need}
    (among : need ∈ joinNeeds m.aliasName e) (lacking : Lacking members need) :
    JoinMisnames members m e := by
  have own (property : String) (same : need = .mapped m.aliasName property) : m.Lacks property :=
    lacks_of_own accepted member (same ▸ lacking)
  have elsewhere (aliasName property : String) (same : need = .mapped aliasName property) :
      ∃ o ∈ members, o.aliasName = aliasName ∧ o.Lacks property := by
    subst same
    obtain ⟨o, inside, name, same, lacks⟩ := lacking
    obtain ⟨rfl, rfl⟩ := Need.mapped.inj same
    exact ⟨o, inside, rfl, lacks⟩
  cases e with
  | properties left right relation aliasName otherIsLeft positive =>
    cases otherIsLeft with
    | true =>
      rcases List.mem_cons.mp among with rfl | later
      · exact absurd lacking (not_lacking (by simp))
      · rcases List.mem_cons.mp later with same | last
        · obtain ⟨o, inside, rfl, lacks⟩ := elsewhere aliasName left same
          exact .other inside lacks
        · exact .own (own right (List.mem_singleton.mp last))
    | false =>
      rcases List.mem_cons.mp among with rfl | later
      · exact absurd lacking (not_lacking (by simp))
      · rcases List.mem_cons.mp later with same | last
        · exact .own (own left same)
        · obtain ⟨o, inside, rfl, lacks⟩ := elsewhere aliasName right (List.mem_singleton.mp last)
          exact .other inside lacks
  | value property v relation aliasName positive =>
    rcases List.mem_cons.mp among with rfl | later
    · exact absurd lacking (not_lacking (by simp))
    · rcases List.mem_cons.mp later with same | last
      · obtain ⟨o, inside, rfl, lacks⟩ := elsewhere aliasName property same
        exact .value inside lacks
      · obtain rfl := List.mem_singleton.mp last
        exact absurd lacking (not_lacking (by simp))

theorem misspelt_of_demands {x : Demand} (among : x ∈ demands members .count)
    (lacking : Lacking members x.need) : Misspelt members := by
  have parts : x ∈ members.tail.flatMap joinDemands ∨ x ∈ members.flatMap filterDemands := by
    simpa [demands, Request.demands] using among
  rcases parts with joins | filters
  · obtain ⟨m, member, inside⟩ := List.mem_flatMap.mp joins
    rcases List.mem_append.mp inside with keyword | expressions
    · split at keyword
      · obtain rfl := List.mem_singleton.mp keyword
        exact absurd lacking (not_lacking (by simp))
      · cases keyword
    · obtain ⟨e, item, placed⟩ := List.mem_flatMap.mp expressions
      obtain ⟨need, own, rfl⟩ := List.mem_map.mp placed
      exact .join member item
        (joinMisnames_of_needs accepted (List.mem_of_mem_tail member) own lacking)
  · obtain ⟨m, member, inside⟩ := List.mem_flatMap.mp filters
    cases own : m.criteria with
    | none =>
      rw [filterDemands, own] at inside
      cases inside
    | some c =>
      rw [filterDemands, own] at inside
      obtain ⟨need, listed, rfl⟩ := List.mem_map.mp inside
      rw [needsAll_eq_flatMap] at listed
      obtain ⟨e, item, among⟩ := List.mem_flatMap.mp listed
      obtain ⟨node, below, misnames⟩ := misnames_of_needs accepted member among lacking
      exact .filter member own item below misnames

end Accepted

inductive ForProperty : Error → Prop where
  | bare {aliasName table property : String} :
      ForProperty (.configuration (.storePropertyNotMapped aliasName table property))
  | found {place : Place} {aliasName table property : String} :
      ForProperty (.configuration (.found place (.storePropertyNotMapped aliasName table property)))

theorem lacking_of_forProperty {d : Dialect} {x : Demand} {cause : Error}
    (refused : x.need.Refused d members cause) (reported : ForProperty (x.placed cause)) :
    Lacking members x.need := by
  obtain ⟨need, place⟩ := x
  cases refused with
  | mapped member unmapped => exact ⟨_, member, _, rfl, unmapped⟩
  | _ => cases place <;> cases reported

/-- A join in which a property is misspelt is refused, and no text is written; and for no
    other reason is a property reported when it is counted. -/
theorem misspelt_rejected (d : Dialect) (members : List Member) :
    (Misspelt members → ∀ request q, ∃ e, (compile d members request q).failure = some e ∧
      ((compile d members request q).query.sql = "" ∨ (compile d members request q).query = q)) ∧
    ∀ p, Plan.ofMembers members = .ok p → ∀ q e,
      (compile d members .count q).failure = some e → ForProperty e → Misspelt members := by
  constructor
  · intro misspelt request q
    cases failure : (compile d members request q).failure with
    | some e => exact ⟨e, rfl, textless_of_failure failure⟩
    | none =>
      obtain ⟨p, accepted⟩ := accepted_of_complete failure
      -- complete statements have met every demand, the lacking one too
      obtain ⟨x, among, lacking⟩ := demands_of_misspelt misspelt request
      have met := (complete_iff accepted d request q).mp failure x among
      exact absurd met (not_met_of_lacking lacking)
  · intro p accepted q e failed reported
    rw [compile_failure accepted, refused_iff accepted] at failed
    obtain ⟨before, x, after, cause, split, -, refused, rfl⟩ := failed
    have among : x ∈ demands members .count := by
      rw [split]
      simp
    exact misspelt_of_demands accepted among (lacking_of_forProperty refused reported)

/-- A membership in no values passes with a property that the store does not have. -/
theorem misspelt_empty_membership_passes :
    let authors : Member :=
      { Sample.authors with criteria := some ⟨.and, [.inList "nope" [] true]⟩ }
    let members := [authors, { Sample.books with criteria := none }]
    authors.Lacks "nope" ∧ ∀ request ∈ [Request.select [], .count],
      (compile .sqlite members request default).failure = none ∧
        (compile .sqlite members request default).query.sql ≠ "" := by
  intro authors members
  refine ⟨by unfold Member.Lacks; decide, ?_⟩
  intro request member
  simp only [List.mem_cons, List.not_mem_nil, or_false] at member
  rcases member with rfl | rfl
  · exact ⟨rfl, by decide +kernel⟩
  · exact ⟨rfl, by decide +kernel⟩

end Joinery.Sql
