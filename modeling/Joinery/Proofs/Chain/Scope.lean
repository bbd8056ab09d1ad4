import Joinery.Proofs.Chain.Reachable
import Joinery.Proofs.Sql.Scope

/-!
The scopes of a chain. Every chain that joining leads to is well scoped; so it is refused
by the compiler only for a single store or for how one is attached, and the condition of
a store in any statement compiled from it mentions that store and earlier ones alone.
-/
namespace Joinery.Chain
open Sql

variable {ρ : Type} {stores : List (Store ρ)} {c : Chain ρ}

/-- What stands behind the ON of the `i`-th store, counted from zero: for each of its
    expressions a part with the letters of an earlier store and perhaps its own. -/
structure InScope (c : Chain ρ) (i : Nat) (l : Link ρ) (cond : List Token) : Prop where
  parts : List.Forall₂ (fun e part => ∃ j < i, c.aliases[j]? = some e.otherAlias ∧
      letter j ≠ letter i ∧ qualifiers part = e.letters (letter i) (letter j))
    l.member.on (cond.splitOn (connectiveToken l.member.connective))
  letters : ∀ x ∈ qualifiers cond, ∃ j ≤ i, x = letter j

theorem resolve_index (sound : WellScoped stores c) {aliasName : String} {s : Seat} {j : Nat}
    (stands : c.aliases[j]? = some aliasName) (found : Plan.resolve ⟨c.members⟩ aliasName = .ok s) :
    s.index = j := by
  obtain ⟨member, named⟩ := Plan.resolve_ok found
  have own : c.aliases[s.index]? = some aliasName := by
    have mapped := congrArg (Option.map Member.aliasName) member
    rw [← List.getElem?_map] at mapped
    exact mapped.trans (congrArg some named)
  obtain ⟨inside, -⟩ := List.getElem?_eq_some_iff.mp own
  exact (List.getElem?_inj inside sound.aliases_nodup).mp (own.trans stands.symm)

theorem letters_le (e : JoinExpression) {i j : Nat} (less : j < i) :
    ∀ x ∈ e.letters (letter i) (letter j), ∃ k ≤ i, x = letter k := by
  intro x member
  have either : x = letter i ∨ x = letter j := by
    cases e with
    | properties left right relation aliasName otherIsLeft positive =>
      cases otherIsLeft <;> simp [JoinExpression.letters] at member <;> tauto
    | value => exact .inr (List.mem_singleton.mp member)
  rcases either with rfl | rfl
  · exact ⟨i, Nat.le_refl i, rfl⟩
  · exact ⟨j, Nat.le_of_lt less, rfl⟩

theorem exists_left {α β : Type} {R : α → β → Prop} {xs : List α} {ys : List β}
    (all : List.Forall₂ R xs ys) {y : β} (member : y ∈ ys) : ∃ x, R x y := by
  induction all with
  | nil => cases member
  | cons first _ ih =>
    rcases List.mem_cons.mp member with rfl | later
    · exact ⟨_, first⟩
    · exact ih later

theorem mentions_earlier (sound : WellScoped stores c) {i : Nat} {l : Link ρ}
    (found : c.links[i]? = some l) {e : JoinExpression} (member : e ∈ l.member.on)
    {part : List Token} (mentions : Mentions ⟨c.members⟩ ⟨i, l.member⟩ e part) :
    ∃ j < i, c.aliases[j]? = some e.otherAlias ∧ letter j ≠ letter i ∧
      qualifiers part = e.letters (letter i) (letter j) := by
  obtain ⟨other, resolved, letters⟩ := mentions
  obtain ⟨j, less, stands⟩ := sound.earlier i l found e member
  have index : other.index = j := resolve_index sound stands resolved
  obtain ⟨inside, -⟩ := List.getElem?_eq_some_iff.mp found
  have bound : i < c.length := inside
  have few := sound.few
  -- letters repeat only beyond the largest number of stores
  have apart : letter j ≠ letter i := by
    intro same
    have := letter_injective (by omega) (by omega) same
    omega
  refine ⟨j, less, stands, apart, ?_⟩
  rw [letters, Seat.letter, Seat.letter, index]

theorem inScope_of_scoped (sound : WellScoped stores c) {i : Nat} {l : Link ρ} {cond : List Token}
    (found : c.links[i]? = some l) (within : Scoped ⟨c.members⟩ ⟨i, l.member⟩ cond) :
    InScope c i l cond := by
  have parts := within.parts
  have whole := within.whole
  dsimp only at parts whole
  have earlier : List.Forall₂ (fun e part => ∃ j < i, c.aliases[j]? = some e.otherAlias ∧
      letter j ≠ letter i ∧ qualifiers part = e.letters (letter i) (letter j))
      l.member.on (cond.splitOn (connectiveToken l.member.connective)) := by
    have listed : ∀ e ∈ l.member.on, e ∈ l.member.on := fun e member => member
    apply ((List.forall₂_and_left _ _).mpr ⟨listed, parts⟩).imp
    intro e part kept
    exact mentions_earlier sound found kept.1 kept.2
  refine ⟨earlier, ?_⟩
  intro x member
  rw [whole, List.mem_flatMap] at member
  obtain ⟨part, inside, mentioned⟩ := member
  obtain ⟨e, j, less, -, -, letters⟩ := exists_left earlier inside
  rw [letters] at mentioned
  exact letters_le e less x mentioned

theorem conditions_inScope (sound : WellScoped stores c) {d : Dialect} {request : Request} {q : Query}
    (complete : (compile d c.members request q).failure = none) :
    let conditions := joinWords (words (compile d c.members request q).query.tokens)
    conditions.length + 1 = c.length ∧ ∀ (i : Nat) (l : Link ρ) (cond : List Token),
      c.links[i + 1]? = some l → conditions[i]? = some cond → InScope c (i + 1) l cond := by
  intro conditions
  obtain ⟨p, accepted⟩ := accepted_of_complete complete
  obtain ⟨sameTokens, -, sameFailure⟩ := compile_accepted accepted d request q
  have attached := Plan.seats_attached accepted
  obtain ⟨rfl, -, -, -⟩ := Plan.ofMembers_ok accepted
  have emits := emits_of_complete (sameFailure.symm.trans complete)
  have all := statement_scoped attached request emits
  rw [← sameTokens] at all
  have count := Plan.length_seats ⟨c.members⟩
  dsimp only at count
  rw [length_members] at count
  constructor
  · have lengths : _ = conditions.length := all.length_eq
    rw [List.length_tail, count] at lengths
    have begun := sound.begun
    omega
  · intro i l cond found here
    have seat : (Plan.seats ⟨c.members⟩).tail[i]? = some ⟨i + 1, l.member⟩ := by
      rw [List.getElem?_tail, Plan.getElem?_seats]
      change (c.links.map Link.member)[i + 1]?.map _ = _
      rw [List.getElem?_map, found]
      rfl
    obtain ⟨inside, value⟩ := List.getElem?_eq_some_iff.mp seat
    obtain ⟨inside', value'⟩ := List.getElem?_eq_some_iff.mp here
    have own := all.get inside inside'
    rw [List.get_eq_getElem, List.get_eq_getElem, value, value'] at own
    exact inScope_of_scoped sound found own

/-- A chain that could be built is refused only for its length or for a store that lacks a join
    type or condition. Its ON conditions mention the two stores they join and no others. -/
theorem built_well_scoped (built : Built stores c) :
    WellScoped stores c ∧
      (∀ fault, Plan.ofMembers c.members = .error fault →
        (fault = .tooFewStores 1 ∧ c.length = 1) ∨
          ∃ l ∈ c.rest, (fault = .joinTypeMissing l.member.aliasName ∧ l.member.joinType = none) ∨
            (fault = .joinConditionMissing l.member.aliasName ∧ l.member.on = [])) ∧
      ∀ (d : Dialect) (request : Request) (q : Query),
        (compile d c.members request q).failure = none →
        let conditions := joinWords (words (compile d c.members request q).query.tokens)
        conditions.length + 1 = c.length ∧ ∀ (i : Nat) (l : Link ρ) (cond : List Token),
          c.links[i + 1]? = some l → conditions[i]? = some cond → InScope c (i + 1) l cond := by
  have sound := built.wellScoped
  refine ⟨sound, fun fault refused => sound.fault refused, ?_⟩
  intro d request q complete
  exact conditions_inScope sound complete

def Sample.store (m : Mapping) : Store Record :=
  ⟨⟨.mssql, "library"⟩, Record.mappingOf m (Record.untyped m)⟩

def Sample.own : JoinCriteria :=
  ⟨none, some .inner, .and, [.properties "id" "author" .equal "authors" true true], none⟩

def Sample.others : JoinCriteria :=
  ⟨some "others", some .leftOuter, .or,
    [.properties "author" "author" .equal "books" false false,
      .value "id" (.integer 7) .lesser "authors" true], none⟩

def Sample.authors : Store Record := Sample.store Sql.Sample.authors.mapping

def Sample.books : Store Record := Sample.store Sql.Sample.books.mapping

def Sample.pair : Chain Record :=
  { begin Sample.authors none none with rest := [attached Sample.books Sample.own] }

def Sample.shelf : Chain Record :=
  { Sample.pair with rest := Sample.pair.rest ++ [attached Sample.books Sample.others] }

theorem Sample.pair_built : Built [Sample.authors, Sample.books] Sample.pair := by
  have joined : (begin Sample.authors none none).join Sample.books Sample.own = .ok Sample.pair := by
    rfl
  exact .join (.begin Sample.authors none none) joined

theorem Sample.shelf_joined : Sample.pair.join Sample.books Sample.others = .ok Sample.shelf := by
  rfl

theorem built_well_scoped_sample :
    WellScoped [Sample.authors, Sample.books, Sample.books] Sample.shelf ∧
      InScope Sample.shelf 2 (attached Sample.books Sample.others)
        [Token.lparen, .ident "C", Token.dot, .ident "author_id", .symbol .ne, .ident "B", Token.dot,
          .ident "author_id", Token.rparen, Token.or, Token.lparen, .ident "A", Token.dot, .ident "id",
          .symbol .lt, .param 1, Token.rparen] := by
  have built : Built [Sample.authors, Sample.books, Sample.books] Sample.shelf :=
    .join Sample.pair_built Sample.shelf_joined
  obtain ⟨sound, -, conditions⟩ := built_well_scoped built
  have complete : (compile .tsql Sample.shelf.members .count default).failure = none := by rfl
  obtain ⟨-, each⟩ := conditions .tsql .count default complete
  exact ⟨sound, each 1 _ _ rfl rfl⟩

end Joinery.Chain
