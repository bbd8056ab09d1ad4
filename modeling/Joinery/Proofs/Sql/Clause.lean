import Joinery.Proofs.Sql.Plan
import Joinery.Proofs.Sql.ReadBack

/-!
Statements are read back clause by clause. A condition stands behind ON or WHERE and
goes on to the next clause. The conditions of a complete statement are those of its
joins, in order, and that of its filters, and they evaluate to what the join
expressions and criteria mean.
-/
namespace Joinery.Sql
open Emission Reader

/-- Words that begin a clause, so that the condition before them ends. -/
def opensClause : Token → Bool
  | .keyword .inner | .keyword .left | .keyword .right => true
  | .keyword .filter | .keyword .orderBy => true
  | .fullOuterJoin => true
  | _ => false

def clause (ts : List Token) : List Token := ts.takeWhile fun t => !opensClause t

def behind (word : Token) : List Token → List (List Token)
  | [] => []
  | t :: rest => if t = word then clause rest :: behind word rest else behind word rest

def joinWords (ts : List Token) : List (List Token) := behind Token.on ts

def filterWords? (ts : List Token) : Option (List Token) := (behind Token.filter ts).head?

structure Conditions where
  joins : List Condition
  filter : Option Condition

def filterOfWords (d : Dialect) (ts : List Token) : Option (Option Condition) :=
  match filterWords? ts with
  | none => some none
  | some ws => (Condition.ofWords d ws).map some

def Conditions.ofWords (d : Dialect) (ts : List Token) : Option Conditions :=
  ((joinWords ts).mapM (Condition.ofWords d)).bind fun joins =>
    (filterOfWords d ts).map fun filter => ⟨joins, filter⟩

def Conditions.read (d : Dialect) (ts : List Token) : Option Conditions :=
  Conditions.ofWords d (words ts)

def filterTruth (filter : Option Condition) (w : World) (params : List Value) : Truth :=
  match filter with
  | none => .yes
  | some c => c.eval w params

def quiet (t : Token) : Bool := t ≠ Token.on && t ≠ Token.filter

def unfiltered (t : Token) : Bool := t ≠ Token.filter

def plain (t : Token) : Bool := quiet t && !opensClause t

theorem unfiltered_of_quiet (t : Token) (silent : quiet t = true) : unfiltered t = true := by
  simp only [quiet, Bool.and_eq_true] at silent
  exact silent.2

theorem quiet_of_plain (t : Token) (inside : plain t = true) : quiet t = true := by
  simp only [plain, Bool.and_eq_true] at inside
  exact inside.1

def Opening (us : List Token) : Prop := ∀ t, us.head? = some t → opensClause t = true

theorem clause_append {ts us : List Token} (inside : ts.all plain = true) (next : Opening us) :
    clause (ts ++ us) = ts := by
  have goesOn : ∀ t ∈ ts, (!opensClause t) = true := by
    intro t member
    have both := List.all_eq_true.mp inside t member
    simp only [plain, Bool.and_eq_true] at both
    exact both.2
  have stop : us.takeWhile (fun t => !opensClause t) = [] := by
    cases us with
    | nil => rfl
    | cons t us => simp [next t rfl]
  rw [clause, List.takeWhile_append_of_pos goesOn, stop, List.append_nil]

theorem behind_skip {word : Token} {ts : List Token} (skipped : ts.all (· ≠ word) = true)
    (us : List Token) : behind word (ts ++ us) = behind word us := by
  induction ts with
  | nil => rfl
  | cons t ts ih =>
    simp only [List.all_cons, Bool.and_eq_true, decide_eq_true_eq] at skipped
    rw [List.cons_append, behind, if_neg skipped.1]
    exact ih skipped.2

theorem joinWords_skip {ts : List Token} (skipped : ts.all quiet = true) (us : List Token) :
    joinWords (ts ++ us) = joinWords us := by
  refine behind_skip (all_mono ?_ skipped) us
  intro t silent
  simp only [quiet, Bool.and_eq_true] at silent
  exact silent.1

theorem filterWords_skip {ts : List Token} (skipped : ts.all unfiltered = true)
    (us : List Token) : filterWords? (ts ++ us) = filterWords? us := by
  rw [filterWords?, filterWords?, behind_skip skipped]

theorem joinWords_on {ts us : List Token} (inside : ts.all plain = true) (next : Opening us) :
    joinWords (Token.on :: (ts ++ us)) = ts :: joinWords us := by
  have silent := all_mono quiet_of_plain inside
  rw [joinWords, behind, if_pos rfl, clause_append inside next]
  exact congrArg (ts :: ·) (joinWords_skip silent us)

theorem joinWords_join {t : Token} {lead cond us : List Token} (opens : opensClause t = true)
    (silent : (t :: lead).all quiet = true) (inside : cond.all plain = true) (next : Opening us) :
    Opening (t :: lead ++ Token.on :: cond ++ us) ∧
      joinWords (t :: lead ++ Token.on :: cond ++ us) = cond :: joinWords us := by
  constructor
  · intro t' head
    have : t = t' := Option.some.inj head
    exact this ▸ opens
  · rw [List.append_assoc, joinWords_skip silent, List.cons_append, joinWords_on inside next]

def Spells (f : Token → Bool) (e : Emission) : Prop := ∀ n, (e n).tokens.all f = true

theorem spells_append {f : Token → Bool} {a b : Emission} (ha : Spells f a) (hb : Spells f b) :
    Spells f (a ++ b) := by
  intro n
  rw [append_apply]
  split
  · exact ha n
  · rw [List.all_append, ha, hb]
    rfl

theorem spells_closed {f : Token → Bool} (fixed : ∀ t, fixedWord t = true → f t = true)
    (param : ∀ k, f (.param k) = true) : Closed (Spells f) where
  words all _ := all_mono fixed all
  param v n := by
    change (f (.param (n + 1)) && true) = true
    rw [param]
    rfl
  fail _ _ := rfl
  append := spells_append
  foundAt _ h := h

theorem plain_closed : Closed (Spells plain) := by
  refine spells_closed (fun t fixed => ?_) (fun k => rfl)
  cases t with
  | keyword k => cases k <;> first | rfl | exact absurd fixed (by simp [fixedWord])
  | fullOuterJoin => exact absurd fixed (by simp [fixedWord])
  | symbol | ident | int | string | param | function | raw => rfl

theorem words_all {f : Token → Bool} {ts : List Token} (all : ts.all f = true) :
    (words ts).all f = true := by
  apply List.all_eq_true.mpr
  intro t member
  exact List.all_eq_true.mp all t (List.mem_filter.mp member).1

theorem emits_spells {f : Token → Bool} {e : Emission} (spells : Spells f e) {n : Nat}
    {ts : List Token} {ps : List Value} (emits : Emits e n ts ps) :
    (words ts).all f = true := by
  have all := spells n
  rw [emits] at all
  exact words_all all

variable {d : Dialect} {p : Plan} {s : Seat}

theorem joinKeywords_words {aliasName : String} {type : JoinType} {n : Nat} {ts : List Token}
    {ps : List Value} (emits : Emits (joinKeywords d aliasName type) n ts ps) :
    ps = [] ∧ ∃ t rest, words ts = t :: rest ∧ opensClause t = true ∧
      (t :: rest).all quiet = true := by
  cases type with
  | inner =>
    obtain ⟨rfl, rfl⟩ := emits_tokens.mp emits
    exact ⟨rfl, _, _, rfl, rfl, rfl⟩
  | leftOuter =>
    obtain ⟨rfl, rfl⟩ := emits_tokens.mp emits
    exact ⟨rfl, _, _, rfl, rfl, rfl⟩
  | rightOuter =>
    obtain ⟨rfl, rfl⟩ := emits_tokens.mp emits
    exact ⟨rfl, _, _, rfl, rfl, rfl⟩
  | fullOuter =>
    unfold joinKeywords at emits
    cases known : d.fullOuterJoin? with
    | none =>
      rw [known] at emits
      exact absurd emits not_emits_fail
    | some text =>
      rw [known] at emits
      obtain ⟨rfl, rfl⟩ := emits_tokens.mp emits
      exact ⟨rfl, _, _, rfl, rfl, rfl⟩

theorem combined_eq_separated (connective : Connective) {parts : List Emission}
    (some_part : parts ≠ []) :
    combined connective parts = separated (between connective) parts := by
  obtain ⟨e, rest, rfl⟩ := List.exists_cons_of_ne_nil some_part
  rfl

theorem means_on (attached : s.member.on ≠ []) :
    Means (whole d) [.or, .and]
      (separated (between s.member.connective)
        (s.member.on.map fun e => foundAt (.joinExpression e) (joinExpression p s e)))
      fun w => onMeaning w p s := by
  have some_part : (s.member.on.map fun e =>
      foundAt (.joinExpression e) (joinExpression p s e)) ≠ [] :=
    fun empty => attached (List.map_eq_nil_iff.mp empty)
  rw [← combined_eq_separated _ some_part]
  exact means_combined s.member.on fun e _ => means_foundAt _ (means_joinExpression p e)

theorem plain_on : Spells plain (separated (between s.member.connective)
    (s.member.on.map fun e => foundAt (.joinExpression e) (joinExpression p s e))) := by
  apply plain_closed.separated (by cases s.member.connective <;> rfl)
  intro e _
  exact plain_closed.foundAt _ (plain_closed.joinExpression p s e)

def onCondition (p : Plan) (s : Seat) : Emission :=
  separated (between s.member.connective)
    (s.member.on.map fun e => foundAt (.joinExpression e) (joinExpression p s e))

theorem joinClause_words {n : Nat} {ts : List Token} {ps : List Value}
    (emits : Emits (joinClause d p s) n ts ps) :
    ∃ t lead us, words ts = t :: lead ++ Token.on :: words us ∧ opensClause t = true ∧
      (t :: lead).all quiet = true ∧ Emits (onCondition p s) n us ps := by
  unfold joinClause at emits
  cases joinType : s.member.joinType with
  | none =>
    rw [joinType] at emits
    exact absurd emits not_emits_fail
  | some type =>
    rw [joinType] at emits
    obtain ⟨ts₁, ps₁, ts₂, ps₂, lead, condition, rfl, rfl⟩ := emits_append.mp emits
    obtain ⟨ts₃, ps₃, ts₄, ps₄, opening, attach, rfl, rfl⟩ := emits_append.mp lead
    obtain ⟨ts₅, ps₅, ts₆, ps₆, blank, keywords, rfl, rfl⟩ := emits_append.mp opening
    obtain ⟨rfl, rfl⟩ := emits_tokens.mp blank
    obtain ⟨rfl, rfl⟩ := emits_tokens.mp attach
    obtain ⟨rfl, t, rest, shape, opens, silent⟩ := joinKeywords_words keywords
    refine ⟨t, rest ++ [.ident s.member.mapping.table, .ident s.letter], ts₂,
      ?_, opens, ?_, condition⟩
    · rw [words_append, words_append, words_append, shape]
      simp [words, isSpace, table, Token.space, Token.on]
    · rw [← List.cons_append, List.all_append, silent]
      rfl

theorem joinClause_read (attached : s.member.on ≠ []) {n : Nat} {ts : List Token}
    {ps : List Value} (emits : Emits (joinClause d p s) n ts ps) :
    ∃ t lead cond c, words ts = t :: lead ++ Token.on :: cond ∧ opensClause t = true ∧
      (t :: lead).all quiet = true ∧ cond.all plain = true ∧
      Condition.ofWords d cond = some c ∧ Tells c n ps fun w => onMeaning w p s := by
  obtain ⟨t, lead, us, shape, opens, silent, condition⟩ := joinClause_words emits
  obtain ⟨c, read, tells⟩ := read_of_means (means_on attached) condition
  exact ⟨t, lead, words us, c, shape, opens, silent, emits_spells plain_on condition, read, tells⟩

theorem joins_read {seats : List Seat} (attached : ∀ s ∈ seats, s.member.on ≠ []) {n : Nat}
    {ts : List Token} {ps : List Value}
    (emits : Emits (concat (seats.map (joinClause d p))) n ts ps) :
    ∃ conds cs, conds.mapM (Condition.ofWords d) = some cs ∧
      (∀ us, Opening us → Opening (words ts ++ us) ∧
        joinWords (words ts ++ us) = conds ++ joinWords us) ∧
      (words ts).all unfiltered = true ∧
      ∀ w before after, before.length = n →
        seats.mapM (onMeaning w p) =
          some (cs.map fun c => c.eval w (before ++ ps ++ after)) := by
  -- a condition ends where the next clause opens, so behind the joins any clause may open
  induction seats generalizing n ts ps with
  | nil =>
    obtain ⟨rfl, rfl⟩ := emits_tokens.mp emits
    exact ⟨[], [], rfl, fun us next => ⟨next, rfl⟩, rfl, fun w before after _ => rfl⟩
  | cons s seats ih =>
    obtain ⟨ts₁, ps₁, ts₂, ps₂, first, later, rfl, rfl⟩ := emits_append.mp emits
    obtain ⟨t, lead, cond, c, shape, opens, silent, inside, read, tells⟩ :=
      joinClause_read (attached s List.mem_cons_self) first
    obtain ⟨conds, cs, reads, follows, others, values⟩ :=
      ih (fun s' member => attached s' (List.mem_cons_of_mem s member)) later
    refine ⟨cond :: conds, c :: cs, ?_, ?_, ?_, ?_⟩
    · rw [List.mapM_cons, read, reads]
      rfl
    · intro us next
      obtain ⟨opening, rest⟩ := follows us next
      obtain ⟨opening', own⟩ := joinWords_join opens silent inside opening
      rw [words_append, shape, List.append_assoc, own, rest]
      exact ⟨opening', rfl⟩
    · have before := all_mono unfiltered_of_quiet silent
      have behind := all_mono unfiltered_of_quiet (all_mono quiet_of_plain inside)
      have on : unfiltered Token.on = true := rfl
      rw [words_append, shape, List.all_append, List.all_append, before, others, List.all_cons, on,
        behind]
      rfl
    · intro w before after count
      have value := tells w before (ps₂ ++ after) count
      have shifted : (before ++ ps₁).length = n + ps₁.length := by
        rw [List.length_append, count]
      have rest := values w (before ++ ps₁) after shifted
      simp only [List.append_assoc] at value rest ⊢
      rw [List.mapM_cons, value, rest]
      rfl

def filterPart (d : Dialect) (p : Plan) (part : Seat × Criteria) : Emission :=
  parenthesized (foundAt (.criteriaOf part.1.member.aliasName) (criteria d p part.1 part.2))

theorem whereClause_eq (first : Seat × Criteria) (rest : List (Seat × Criteria))
    (parts : filtered p = first :: rest) :
    whereClause d p = tokens [Token.space, Token.filter, Token.space]
      ++ separated (between .and) ((first :: rest).map (filterPart d p)) := by
  unfold whereClause
  rw [parts, List.map_cons, separated_cons, List.map_map, ← append_assoc]
  rfl

theorem whereMeaning_filtered (w : World) :
    whereMeaning w d p =
      ((filtered p).mapM fun part => criteriaMeaning w d p part.1 part.2).map
        Connective.and.fold := by
  unfold whereMeaning filtered
  induction p.seats with
  | nil => rfl
  | cons s seats ih =>
    have accepting : Connective.and.combine .yes = id := funext fun t => t.yes_and
    rw [fold_mapM_cons, ih, List.filterMap_cons, filterMeaning]
    cases s.member.criteria with
    | none => rw [Option.bind_some, accepting, Option.map_id_fun, id]
    | some c =>
      by_cases filters : c.filters = true
      · simp only [filters, if_true]
        rw [fold_mapM_cons]
      · -- criteria that do not filter are left out, and an empty AND accepts every row
        have nothing : c = ⟨.and, []⟩ := c.eq_of_not_filters filters
        subst nothing
        simp only [filters]
        rw [criteriaMeaning, expressionsMeaning, Option.map_some, Option.bind_some,
          Connective.fold_nil, Connective.neutral, accepting, Option.map_id_fun, id]
        rfl

theorem whereClause_read {n : Nat} {ts : List Token} {ps : List Value}
    (emits : Emits (whereClause d p) n ts ps) :
    ∃ filter, (∀ us, us.all quiet = true → Opening us →
        Opening (words ts ++ us) ∧ joinWords (words ts ++ us) = [] ∧
          filterOfWords d (words ts ++ us) = some filter) ∧
      ∀ w before after, before.length = n →
        whereMeaning w d p = some (filterTruth filter w (before ++ ps ++ after)) := by
  have silentEnd {us : List Token} (silent : us.all quiet = true) : joinWords us = [] := by
    have rest := joinWords_skip silent []
    rwa [List.append_nil] at rest
  cases parts : filtered p with
  | nil =>
    unfold whereClause at emits
    rw [parts] at emits
    obtain ⟨rfl, rfl⟩ := emits_tokens.mp emits
    refine ⟨none, ?_, ?_⟩
    · intro us silent next
      have unread : filterWords? us = none := by
        have rest := filterWords_skip (all_mono unfiltered_of_quiet silent) []
        rwa [List.append_nil] at rest
      have none : filterOfWords d us = some none := by
        rw [filterOfWords, unread]
      exact ⟨next, silentEnd silent, none⟩
    · intro w before after _
      rw [whereMeaning_filtered, parts]
      rfl
  | cons first rest =>
    rw [whereClause_eq first rest parts] at emits
    obtain ⟨ts₁, ps₁, ts₂, ps₂, lead, condition, rfl, rfl⟩ := emits_append.mp emits
    obtain ⟨rfl, rfl⟩ := emits_tokens.mp lead
    have group (part : Seat × Criteria) : Means (factor d) [] (filterPart d p part)
        fun w => criteriaMeaning w d p part.1 part.2 :=
      means_parenthesized (means_foundAt _ (means_criteria p part.2))
    have means : Means (whole d) [.or, .and] _ fun w => whereMeaning w d p :=
      means_of_eq (fun w => by rw [whereMeaning_filtered, parts])
        (means_single (means_several (by simp) first rest fun part _ => group part))
    have spells : Spells plain
        (separated (between .and) ((first :: rest).map (filterPart d p))) := by
      apply plain_closed.separated rfl
      intro part _
      exact plain_closed.parenthesized
        (plain_closed.foundAt _ (plain_closed.criteria d p part.1 part.2))
    -- inside the condition there is no word at which a clause begins
    have inside := emits_spells spells condition
    obtain ⟨c, read, tells⟩ := read_of_means means condition
    refine ⟨some c, ?_, tells⟩
    intro us silent next
    change Opening (Token.filter :: (words ts₂ ++ us)) ∧
      joinWords (Token.filter :: (words ts₂ ++ us)) = [] ∧
      filterOfWords d (Token.filter :: (words ts₂ ++ us)) = some (some c)
    have opening : Opening (Token.filter :: (words ts₂ ++ us)) := by
      intro t head
      have : Token.filter = t := Option.some.inj head
      exact this ▸ rfl
    have noJoin : joinWords (Token.filter :: (words ts₂ ++ us)) = [] := by
      change joinWords (words ts₂ ++ us) = []
      rw [joinWords_skip (all_mono quiet_of_plain inside), silentEnd silent]
    have found : filterOfWords d (Token.filter :: (words ts₂ ++ us)) = some (some c) := by
      rw [filterOfWords, filterWords?, behind, if_pos rfl, clause_append inside next]
      exact congrArg (Option.map some) read
    exact ⟨opening, noJoin, found⟩

theorem fromClause_read (attached : ∀ s ∈ p.seats.tail, s.member.on ≠ []) {n : Nat}
    {ts : List Token} {ps : List Value} (emits : Emits (fromClause d p) n ts ps) :
    ∃ conds cs, conds.mapM (Condition.ofWords d) = some cs ∧
      (∀ us, Opening us → joinWords (words ts ++ us) = conds ++ joinWords us) ∧
      (words ts).all unfiltered = true ∧
      ∀ w before after, before.length = n →
        p.seats.tail.mapM (onMeaning w p) =
          some (cs.map fun c => c.eval w (before ++ ps ++ after)) := by
  unfold fromClause at emits
  cases seats : p.seats with
  | nil =>
    rw [seats] at emits
    obtain ⟨rfl, rfl⟩ := emits_tokens.mp emits
    exact ⟨[], [], rfl, fun us _ => rfl, rfl, fun w before after _ => rfl⟩
  | cons first rest =>
    rw [seats] at emits attached
    obtain ⟨ts₁, ps₁, ts₂, ps₂, lead, joins, rfl, rfl⟩ := emits_append.mp emits
    obtain ⟨rfl, rfl⟩ := emits_tokens.mp lead
    obtain ⟨conds, cs, reads, follows, others, values⟩ := joins_read attached joins
    have silent : (words ([Token.source, Token.space] ++ table first)).all quiet = true := rfl
    refine ⟨conds, cs, reads, ?_, ?_, values⟩
    · intro us next
      rw [words_append, List.append_assoc, joinWords_skip silent, (follows us next).2]
    · rw [words_append, List.all_append, others, all_mono unfiltered_of_quiet silent]
      rfl

theorem quiet_closed : Closed (Spells quiet) := by
  refine spells_closed (fun t fixed => ?_) (fun k => rfl)
  cases t with
  | keyword k => cases k <;> first | rfl | exact absurd fixed (by simp [fixedWord])
  | fullOuterJoin => rfl
  | symbol | ident | int | string | param | function | raw => rfl

theorem orderItem_quiet (o : SortOrder) : Spells quiet (orderItem p o) := by
  unfold orderItem
  cases o.direction with
  | computed => exact fun n => rfl
  | ascending =>
    exact quiet_closed.require _ fun s =>
      quiet_closed.append (quiet_closed.column s o.property) fun n => rfl
  | descending =>
    exact quiet_closed.require _ fun s =>
      quiet_closed.append (quiet_closed.column s o.property) fun n => rfl

theorem orderClause_read {orders : List SortOrder} {n : Nat} {ts : List Token} {ps : List Value}
    (emits : Emits (orderClause p orders) n ts ps) :
    (words ts).all quiet = true ∧ Opening (words ts) := by
  unfold orderClause at emits
  split at emits
  · obtain ⟨rfl, rfl⟩ := emits_tokens.mp emits
    exact ⟨rfl, fun t none => by cases none⟩
  · obtain ⟨ts₁, ps₁, ts₂, ps₂, lead, items, rfl, rfl⟩ := emits_append.mp emits
    obtain ⟨rfl, rfl⟩ := emits_tokens.mp lead
    have silent : Spells quiet (separated [Token.comma, Token.space] (orders.map (orderItem p))) := by
      exact quiet_closed.separated rfl fun o _ => orderItem_quiet o
    have rest := emits_spells silent items
    constructor
    · rw [words_append, List.all_append, rest]
      rfl
    · intro t head
      have : Token.orderBy = t := Option.some.inj head
      exact this ▸ rfl

/-- Between any lead and any end without conditions, the conditions of the body are read
    as they were meant. -/
theorem body_read (attached : ∀ s ∈ p.seats.tail, s.member.on ≠ []) {n : Nat}
    {ts : List Token} {ps : List Value} (emits : Emits (body d p) n ts ps) :
    ∃ cs : Conditions,
      (∀ lead us, lead.all quiet = true → us.all quiet = true → Opening us →
        Conditions.ofWords d (lead ++ words ts ++ us) = some cs) ∧
      ∀ w before after, before.length = n →
        p.seats.tail.mapM (onMeaning w p) =
            some (cs.joins.map fun c => c.eval w (before ++ ps ++ after)) ∧
          whereMeaning w d p = some (filterTruth cs.filter w (before ++ ps ++ after)) := by
  obtain ⟨ts₁, ps₁, ts₂, ps₂, sources, filters, rfl, rfl⟩ := emits_append.mp emits
  obtain ⟨conds, joins, reads, follows, others, values⟩ := fromClause_read attached sources
  obtain ⟨filter, ending, truth⟩ := whereClause_read filters
  refine ⟨⟨joins, filter⟩, ?_, ?_⟩
  · intro lead us silent quietEnd next
    obtain ⟨opening, noJoin, found⟩ := ending us quietEnd next
    have joinsRead : joinWords (lead ++ words (ts₁ ++ ts₂) ++ us) = conds := by
      rw [words_append, List.append_assoc, List.append_assoc, joinWords_skip silent,
        follows _ opening, noJoin, List.append_nil]
    -- no WHERE stands before that of the filters
    have filterRead : filterOfWords d (lead ++ words (ts₁ ++ ts₂) ++ us) = some filter := by
      have skipped : filterWords? (lead ++ words (ts₁ ++ ts₂) ++ us) =
          filterWords? (words ts₂ ++ us) := by
        rw [words_append, List.append_assoc, List.append_assoc,
          filterWords_skip (all_mono unfiltered_of_quiet silent), filterWords_skip others]
      rw [filterOfWords, skipped]
      exact found
    rw [Conditions.ofWords, joinsRead, reads, filterRead]
    rfl
  · intro w before after count
    have shifted : (before ++ ps₁).length = n + ps₁.length := by
      rw [List.length_append, count]
    have joined := values w before (ps₂ ++ after) count
    have kept := truth w (before ++ ps₁) after shifted
    simp only [List.append_assoc] at joined kept ⊢
    exact ⟨joined, kept⟩

theorem statement_parts (request : Request) {ts : List Token} {ps : List Value}
    (emits : Emits (statement d p request) 0 ts ps) :
    ∃ lead us next qs rest, words ts = lead ++ words us ++ next ∧ ps = qs ++ rest ∧
      Emits (body d p) 0 us qs ∧ lead.all quiet = true ∧ next.all quiet = true ∧ Opening next := by
  cases request with
  | select orders =>
    obtain ⟨ts₁, ps₁, ts₂, ps₂, inner, order, rfl, rfl⟩ := emits_append.mp emits
    obtain ⟨ts₃, ps₃, ts₄, ps₄, lead, conditions, rfl, rfl⟩ := emits_append.mp inner
    obtain ⟨rfl, rfl⟩ := emits_tokens.mp lead
    obtain ⟨quietEnd, next⟩ := orderClause_read order
    have columns := all_mono (g := quiet) (fun t list => by
      cases t with
      | keyword k => cases k <;> first | rfl | exact absurd list (by simp [listWord])
      | fullOuterJoin => rfl
      | symbol | ident | int | string | param | function | raw => rfl) (columnList_words d p)
    have silent : (words ([Token.select, Token.space] ++ columnList d p ++ [Token.space])).all
        quiet = true := by
      apply words_all
      rw [List.all_append, List.all_append, columns]
      rfl
    refine ⟨_, ts₄, words ts₂, ps₄, ps₂, ?_, rfl, conditions, silent, quietEnd, next⟩
    rw [words_append, words_append]
  | count =>
    obtain ⟨ts₁, ps₁, ts₂, ps₂, lead, conditions, rfl, rfl⟩ := emits_append.mp emits
    obtain ⟨rfl, rfl⟩ := emits_tokens.mp lead
    have nothing : Opening [] := fun t none => by cases none
    refine ⟨words [Token.select, Token.space, .keyword .count, Token.lparen, Token.star,
      Token.rparen, Token.space], ts₂, [], ps₂, [], ?_, ?_, conditions, rfl, rfl, nothing⟩
    · rw [words_append, List.append_nil]
    · rw [List.nil_append, List.append_nil]

theorem statement_read (attached : ∀ s ∈ p.seats.tail, s.member.on ≠ []) (request : Request)
    {ts : List Token} {ps : List Value} (emits : Emits (statement d p request) 0 ts ps) :
    ∃ cs, Conditions.read d ts = some cs ∧ ∀ w : World,
      p.seats.tail.mapM (onMeaning w p) = some (cs.joins.map fun c => c.eval w ps) ∧
        whereMeaning w d p = some (filterTruth cs.filter w ps) := by
  obtain ⟨lead, us, next, qs, rest, shape, rfl, conditions, silent, quietEnd, opening⟩ :=
    statement_parts request emits
  obtain ⟨cs, reads, values⟩ := body_read attached conditions
  refine ⟨cs, ?_, fun w => values w [] rest rfl⟩
  rw [Conditions.read, shape]
  exact reads lead next silent quietEnd opening

/-- A finished statement says what the criteria say: read back from its tokens, each ON
    condition and the WHERE condition have in every world the truth that the given trees have. -/
theorem conditions_mean {members : List Member} {p : Plan}
    (accepted : Plan.ofMembers members = .ok p) (d : Dialect) (request : Request) (q : Query)
    (complete : (compile d members request q).failure = none) :
    ∃ cs, Conditions.read d (compile d members request q).query.tokens = some cs ∧
      ∀ w : World,
        p.seats.tail.mapM (onMeaning w p) =
            some (cs.joins.map fun c => c.eval w (compile d members request q).query.params) ∧
          whereMeaning w d p =
            some (filterTruth cs.filter w (compile d members request q).query.params) := by
  obtain ⟨sameTokens, sameParams, sameFailure⟩ := compile_accepted accepted d request q
  rw [sameFailure] at complete
  rw [sameTokens, sameParams]
  exact statement_read (Plan.seats_attached accepted) request (emits_of_complete complete)

theorem conditions_mean_sample :
    ∃ cs, Conditions.read .tsql
        (compile .tsql [Sample.authors, Sample.books] (.select [⟨"books", "id", .descending⟩])
          default).query.tokens = some cs ∧
      ∀ w : World,
        Sample.plan.seats.tail.mapM (onMeaning w Sample.plan) =
            some (cs.joins.map fun c =>
              c.eval w [.integer 7, .integer 1, .integer 2, .text "POINT(1 2)"]) ∧
          whereMeaning w .tsql Sample.plan =
            some (filterTruth cs.filter w [.integer 7, .integer 1, .integer 2, .text "POINT(1 2)"]) := by
  exact conditions_mean Sample.accepted .tsql (.select [⟨"books", "id", .descending⟩]) default rfl

end Joinery.Sql
