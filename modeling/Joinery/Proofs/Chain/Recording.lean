import Joinery.Proofs.Chain.Materialization
import Joinery.Proofs.Mapping.Binding
import Joinery.Proofs.Value.Reading

/-!
How the record of a store is read from a row. A row has a record of a store unless every
deciding column is null: its identity, or all its columns if it has none. The record is the
blank one with the cells that are not null put into their fields, in mapping order. Whatever
cannot be asked, read or put ends the reading at once, and a field is never given a null.
-/
namespace Joinery
open Sql

def cellUnder (header : List String) (lead : String) (c : Column) : Nat :=
  (ordinal? header (lead ++ c.name)).getD 0

theorem located_cells {header : List String} {aliasName lead : String} {cs : List Column}
    {ordinals : List Nat} (located : locate header aliasName lead cs = .ok ordinals) :
    ordinals = cs.map (cellUnder header lead) ∧
      ∀ c ∈ cs, ordinal? header (lead ++ c.name) = some (cellUnder header lead c) := by
  induction cs generalizing ordinals with
  | nil =>
    cases located
    exact ⟨rfl, fun c member => by cases member⟩
  | cons c rest ih =>
    obtain ⟨i, later, found, others, rfl⟩ := locate_cons.mp located
    obtain ⟨shape, places⟩ := ih others
    have here : cellUnder header lead c = i := by rw [cellUnder, found, Option.getD_some]
    refine ⟨by rw [List.map_cons, here, shape], ?_⟩
    rw [List.forall_mem_cons, here]
    exact ⟨found, places⟩

theorem storeLayouts_getElem? {header : List String} {ms : List Member} {leads : List String}
    {stores : List StoreLayout} (resolved : storeLayouts header ms leads = .ok stores) {i : Nat}
    {m : Member} (member : ms[i]? = some m) {lead : String} (own : leads[i]? = some lead) :
    ∃ store, stores[i]? = some store ∧ StoreLayout.of header m lead = .ok store := by
  induction ms generalizing leads stores i with
  | nil => cases member
  | cons first rest ih =>
    cases leads with
    | nil => cases own
    | cons lead' leads =>
      obtain ⟨store, later, found, others, rfl⟩ := storeLayouts_cons.mp resolved
      cases i with
      | zero =>
        cases member
        cases own
        exact ⟨store, rfl, found⟩
      | succ i => exact ih others member own

def Mapping.deciding (m : Mapping) : List Column :=
  m.columns.filter fun c => c.identity || !m.hasIdentity

def FieldBinding.take {ρ : Type} (b : FieldBinding ρ) (v : Value) (record : ρ) : ρ :=
  match b.type.read v with
  | .ok content => b.assign content record
  | .error _ => record

structure Wiring (ρ : Type) where
  cell : Column → Nat
  field : Column → FieldBinding ρ

namespace Wiring
variable {ρ : Type}

/-- The cells are found under a header by prefixed name, and the last binding of a property
    counts. -/
structure Of (header : List String) (lead : String) (m : Mapping)
    (bindings : List (FieldBinding ρ)) (w : Wiring ρ) : Prop where
  cell : ∀ c ∈ m.columns, ordinal? header (lead ++ c.name) = some (w.cell c)
  field : ∀ c ∈ m.columns, RecordMapping.lastBinding? bindings c.property = some (w.field c)

variable {header : List String} {lead : String} {m : Mapping} {blank : ρ}
  {bindings : List (FieldBinding ρ)} {w : Wiring ρ}

theorem exists_field (valid : (RecordMapping.ofBindings m blank bindings).validate = .ok ()) :
    ∃ field : Column → FieldBinding ρ, ∀ c ∈ m.columns,
      RecordMapping.lastBinding? bindings c.property = some (field c) := by
  have bound := RecordMapping.bound_of_validate valid
  obtain ⟨first, member⟩ := List.exists_mem_of_ne_nil _ m.columns_ne
  obtain ⟨any, -⟩ := bound first member
  have inhabited : Nonempty (FieldBinding ρ) := ⟨any⟩
  choose! field last using bound
  exact ⟨field, last⟩

inductive Puts (w : Wiring ρ) (r : Reading) (aliasName : String) (c : Column) (record : ρ) :
    Except Error ρ → Prop where
  | notAsked {cause : String} (failed : r.row.isNull (w.cell c) = .error cause) :
      Puts w r aliasName c record (.error (.execution r.query.sql r.query.params cause))
  | skipped (null : r.row.isNull (w.cell c) = .ok true) : Puts w r aliasName c record (.ok record)
  | notRead {cause : String} (given : r.row.isNull (w.cell c) = .ok false)
      (failed : r.row.value (w.cell c) = .error cause) :
      Puts w r aliasName c record (.error (.execution r.query.sql r.query.params cause))
  | refused {v : Value} {cause : ValueError} (given : r.row.isNull (w.cell c) = .ok false)
      (read : r.row.value (w.cell c) = .ok v) (failed : (w.field c).type.read v = .error cause) :
      Puts w r aliasName c record (.error (.materialization aliasName c.property cause))
  | put {v : Value} {content : (w.field c).type.Carrier}
      (given : r.row.isNull (w.cell c) = .ok false) (read : r.row.value (w.cell c) = .ok v)
      (taken : (w.field c).type.read v = .ok content) :
      Puts w r aliasName c record (.ok ((w.field c).assign content record))

inductive Fills (w : Wiring ρ) (r : Reading) (aliasName : String) : List Column → ρ → ρ → Prop where
  | nil (record : ρ) : Fills w r aliasName [] record record
  | cons {c : Column} {rest : List Column} {record next last : ρ}
      (first : Puts w r aliasName c record (.ok next)) (later : Fills w r aliasName rest next last) :
      Fills w r aliasName (c :: rest) record last

def Ends (w : Wiring ρ) (r : Reading) (aliasName : String) (cs : List Column) (record : ρ)
    (e : Error) : Prop :=
  ∃ before c after mid, cs = before ++ c :: after ∧ Fills w r aliasName before record mid ∧
    Puts w r aliasName c mid (.error e)

variable {r : Reading} {aliasName : String}

theorem handOver_iff (wired : w.Of header lead m bindings) {k : Nat} {c : Column}
    (found : m.columns[k]? = some c) {record : ρ} {o : Except Error ρ} :
    r.handOver aliasName (RecordMapping.ofBindings m blank bindings) k (w.cell c) record = o ↔
      w.Puts r aliasName c record o := by
  have setter : (RecordMapping.ofBindings m blank bindings).setters[k]? =
      some (some (RecordMapping.setter (w.field c).type (w.field c).assign)) := by
    rw [RecordMapping.ofBindings_setters, List.getElem?_map, found]
    simp only [Option.map_some, wired.field c (List.mem_of_getElem? found)]
  have property : ((RecordMapping.ofBindings m blank bindings).mapping.columns[k]?.map
      Column.property).getD "" = c.property := by
    rw [RecordMapping.ofBindings_frame.1, found]
    rfl
  -- one rule of `Puts` for each way out of the code, and back
  constructor
  · rintro rfl
    unfold Reading.handOver
    cases asked : r.row.isNull (w.cell c) with
    | error cause => exact .notAsked asked
    | ok null =>
      cases null with
      | true => exact .skipped asked
      | false =>
        cases read : r.row.value (w.cell c) with
        | error cause => exact .notRead asked read
        | ok v =>
          dsimp only
          rw [property]
          unfold RecordMapping.set
          rw [setter]
          dsimp only [RecordMapping.setter]
          cases taken : (w.field c).type.read v with
          | error cause => exact .refused asked read taken
          | ok content => exact .put asked read taken
  · intro puts
    unfold Reading.handOver RecordMapping.set
    rw [property, setter]
    cases puts with
    | notAsked failed =>
      rw [failed]
      rfl
    | skipped null => rw [null]
    | notRead given failed =>
      rw [given]
      dsimp only
      rw [failed]
      rfl
    | refused given read failed =>
      rw [given]
      dsimp only [RecordMapping.setter]
      rw [read]
      dsimp only
      rw [failed]
      rfl
    | put given read taken =>
      rw [given]
      dsimp only [RecordMapping.setter]
      rw [read]
      dsimp only
      rw [taken]
      rfl

theorem fills_cons {c : Column} {rest : List Column} {record last : ρ} :
    w.Fills r aliasName (c :: rest) record last ↔
      ∃ next, w.Puts r aliasName c record (.ok next) ∧ w.Fills r aliasName rest next last := by
  constructor
  · rintro (_ | ⟨first, later⟩)
    exact ⟨_, first, later⟩
  · rintro ⟨next, first, later⟩
    exact .cons first later

theorem ends_cons {c : Column} {rest : List Column} {record : ρ} {e : Error} :
    w.Ends r aliasName (c :: rest) record e ↔
      w.Puts r aliasName c record (.error e) ∨
        ∃ next, w.Puts r aliasName c record (.ok next) ∧ w.Ends r aliasName rest next e := by
  constructor
  · rintro ⟨before, stop, after, mid, split, filled, failed⟩
    cases before with
    | nil =>
      cases filled
      cases split
      exact .inl failed
    | cons first before =>
      cases split
      obtain ⟨next, put, later⟩ := fills_cons.mp filled
      exact .inr ⟨next, put, before, stop, after, mid, rfl, later, failed⟩
  · rintro (failed | ⟨next, put, before, stop, after, mid, rfl, later, failed⟩)
    · exact ⟨[], c, rest, record, rfl, .nil record, failed⟩
    · exact ⟨c :: before, stop, after, mid, rfl, .cons put later, failed⟩

theorem foldlM_iff (wired : w.Of header lead m bindings) (r : Reading) (aliasName : String)
    (blank : ρ) {cs : List Column} {k : Nat} (own : ∀ j c, cs[j]? = some c → m.columns[k + j]? = some c)
    (record : ρ) :
    let outcome := (cs.zipIdx k).foldlM
      (fun record part => r.handOver aliasName (RecordMapping.ofBindings m blank bindings)
        part.2 (w.cell part.1) record) record
    (∀ last, outcome = .ok last ↔ w.Fills r aliasName cs record last) ∧
      ∀ e, outcome = .error e ↔ w.Ends r aliasName cs record e := by
  -- the columns left are those of the mapping from position `k` on
  induction cs generalizing k record with
  | nil =>
    constructor
    · intro last
      constructor
      · rintro ⟨⟩
        exact .nil record
      · rintro ⟨⟩
        rfl
    · intro e
      constructor
      · rintro ⟨⟩
      · rintro ⟨before, c, after, mid, split, -, -⟩
        cases before <;> cases split
  | cons c rest ih =>
    have here (o : Except Error ρ) :
        r.handOver aliasName (RecordMapping.ofBindings m blank bindings) k (w.cell c) record = o ↔
          w.Puts r aliasName c record o := handOver_iff wired (own 0 c rfl)
    have later := ih (k := k + 1) fun j c' found => by
      rw [Nat.add_right_comm]
      exact own (j + 1) c' found
    dsimp only
    rw [List.zipIdx_cons, List.foldlM_cons]
    simp only [fills_cons, ends_cons, ← here]
    cases r.handOver aliasName (RecordMapping.ofBindings m blank bindings) k (w.cell c) record with
    | error cause => simp [bind, Except.bind]
    | ok next => simpa [bind, Except.bind] using later next

def FirstOther (w : Wiring ρ) (row : Row) (cs : List Column) (answer : Except String Bool) : Prop :=
  answer ≠ .ok true ∧ ∃ before c after, cs = before ++ c :: after ∧
    (∀ b ∈ before, row.isNull (w.cell b) = .ok true) ∧ row.isNull (w.cell c) = answer

theorem firstOther_nil {row : Row} {answer : Except String Bool} : ¬ w.FirstOther row [] answer := by
  rintro ⟨-, before, c, after, split, -, -⟩
  cases before <;> cases split

theorem firstOther_cons {row : Row} {c : Column} {rest : List Column}
    {answer : Except String Bool} :
    w.FirstOther row (c :: rest) answer ↔
      (answer ≠ .ok true ∧ row.isNull (w.cell c) = answer) ∨
        row.isNull (w.cell c) = .ok true ∧ w.FirstOther row rest answer := by
  constructor
  · rintro ⟨other, before, stop, after, split, nulls, asked⟩
    cases before with
    | nil =>
      cases split
      exact .inl ⟨other, asked⟩
    | cons first before =>
      cases split
      exact .inr ⟨nulls _ List.mem_cons_self, other, before, stop, after, rfl,
        fun b member => nulls b (List.mem_cons_of_mem _ member), asked⟩
  · rintro (⟨other, asked⟩ | ⟨null, other, before, stop, after, rfl, nulls, asked⟩)
    · exact ⟨other, [], c, rest, rfl, (fun b member => by cases member), asked⟩
    · refine ⟨other, c :: before, stop, after, rfl, ?_, asked⟩
      intro b member
      rcases List.mem_cons.mp member with rfl | later
      · exact null
      · exact nulls b later

theorem anyPresent_iff (row : Row) (cs : List Column) :
    (row.anyPresent (cs.map w.cell) = .ok false ↔ ∀ c ∈ cs, row.isNull (w.cell c) = .ok true) ∧
    (row.anyPresent (cs.map w.cell) = .ok true ↔ w.FirstOther row cs (.ok false)) ∧
    ∀ cause, row.anyPresent (cs.map w.cell) = .error cause ↔
      w.FirstOther row cs (.error cause) := by
  -- asking stops at the first column that is not null, and a failure is not null either
  induction cs with
  | nil => simp [Row.anyPresent, firstOther_nil]
  | cons c rest ih =>
    rw [List.map_cons, Row.anyPresent]
    simp only [firstOther_cons, List.forall_mem_cons]
    cases asked : row.isNull (w.cell c) with
    | error cause => simp
    | ok null =>
      cases null with
      | false => simp
      | true => simpa using ih

/-- A record is read by asking the deciding columns first and then putting every column, and
    the first failure on the way is the result. -/
structure Records (w : Wiring ρ) (r : Reading) (aliasName : String) (m : Mapping) (blank : ρ)
    (result : Except Error (Option ρ)) : Prop where
  absent : result = .ok none ↔ ∀ c ∈ m.deciding, r.row.isNull (w.cell c) = .ok true
  present : ∀ record, result = .ok (some record) ↔
    w.FirstOther r.row m.deciding (.ok false) ∧ w.Fills r aliasName m.columns blank record
  failed : ∀ e, result = .error e ↔
    (∃ cause, w.FirstOther r.row m.deciding (.error cause) ∧
      e = .execution r.query.sql r.query.params cause) ∨
    (w.FirstOther r.row m.deciding (.ok false) ∧ w.Ends r aliasName m.columns blank e)

theorem records_readCells (wired : w.Of header lead m bindings) {member : Member}
    (own : member.mapping = m) :
    w.Records r member.aliasName m blank
      (r.readCells member w.cell (RecordMapping.ofBindings m blank bindings)) := by
  subst own
  obtain ⟨nulls, first, failed⟩ := anyPresent_iff (w := w) r.row member.mapping.deciding
  have all : ∀ j c, member.mapping.columns[j]? = some c → member.mapping.columns[0 + j]? = some c :=
    fun j c found => by rwa [Nat.zero_add]
  obtain ⟨filled, ended⟩ := foldlM_iff wired r member.aliasName blank all blank
  unfold Reading.readCells
  rw [RecordMapping.ofBindings_frame.2]
  dsimp only
  rw [show (member.mapping.columns.filter fun c => c.identity || !member.mapping.hasIdentity) =
    member.mapping.deciding from rfl]
  -- the loop is known by its outcomes, so from here on any outcome will do
  generalize member.mapping.columns.zipIdx.foldlM (m := Except Error) _ blank = outcome
    at filled ended ⊢
  constructor
  · rw [← nulls]
    cases r.row.anyPresent (member.mapping.deciding.map w.cell) with
    | error cause => simp
    | ok present => cases present <;> cases outcome <;> simp [Except.map]
  · intro record
    rw [← first, ← filled]
    cases r.row.anyPresent (member.mapping.deciding.map w.cell) with
    | error cause => simp
    | ok present => cases present <;> cases outcome <;> simp [Except.map]
  · intro e
    rw [← first, ← ended]
    simp only [← failed]
    cases r.row.anyPresent (member.mapping.deciding.map w.cell) with
    | error cause => simp [Reading.executionError, eq_comm]
    | ok present => cases present <;> cases outcome <;> simp [Except.map]

def Shows (w : Wiring ρ) (row : Row) (c : Column) (v : Value) : Prop :=
  row.isNull (w.cell c) = .ok v.isNull ∧ row.value (w.cell c) = .ok v

def Refuses (w : Wiring ρ) (values : Column → Value) (c : Column) (cause : ValueError) : Prop :=
  values c ≠ .null ∧ (w.field c).type.read (values c) = .error cause

def take (w : Wiring ρ) (values : Column → Value) (record : ρ) (c : Column) : ρ :=
  if values c = .null then record else (w.field c).take (values c) record

structure RecordsValues (w : Wiring ρ) (aliasName : String) (m : Mapping) (blank : ρ)
    (values : Column → Value) (result : Except Error (Option ρ)) : Prop where
  absent : result = .ok none ↔ ∀ c ∈ m.deciding, values c = .null
  present : ∀ record, result = .ok (some record) ↔ (∃ c ∈ m.deciding, values c ≠ .null) ∧
    (∀ c ∈ m.columns, ∀ cause, ¬ w.Refuses values c cause) ∧
    record = m.columns.foldl (w.take values) blank
  failed : ∀ e, result = .error e ↔ (∃ c ∈ m.deciding, values c ≠ .null) ∧
    ∃ before c after cause, m.columns = before ++ c :: after ∧
      (∀ b ∈ before, ∀ cause, ¬ w.Refuses values b cause) ∧ w.Refuses values c cause ∧
      e = .materialization aliasName c.property cause
  cause : ∀ aliasName property cause, result = .error (.materialization aliasName property cause) →
    cause.isUnexpectedNull = false

theorem firstOther_shown {row : Row} {values : Column → Value} {cs : List Column}
    (shown : ∀ c ∈ cs, w.Shows row c (values c)) :
    (w.FirstOther row cs (.ok false) ↔ ∃ c ∈ cs, values c ≠ .null) ∧
      ∀ cause, ¬ w.FirstOther row cs (.error cause) := by
  induction cs with
  | nil => simp [firstOther_nil]
  | cons c rest ih =>
    obtain ⟨later, unfailing⟩ := ih fun b member => shown b (List.mem_cons_of_mem _ member)
    have asked := (shown c List.mem_cons_self).1
    simp only [firstOther_cons, asked, later, unfailing, List.exists_mem_cons_iff,
      ← Value.isNull_eq_false_iff]
    constructor
    · cases (values c).isNull <;> simp
    · simp

variable {values : Column → Value} {c : Column} {record : ρ}

theorem puts_shown (shown : w.Shows r.row c (values c)) {o : Except Error ρ} :
    w.Puts r aliasName c record o ↔
      o = if values c = .null then .ok record
        else
          match (w.field c).type.read (values c) with
          | .ok content => .ok ((w.field c).assign content record)
          | .error cause => .error (.materialization aliasName c.property cause) := by
  obtain ⟨asked, read⟩ := shown
  by_cases null : values c = .null
  · rw [if_pos null]
    rw [null] at asked
    constructor
    · rintro (failed | - | given | given | given)
      · cases asked.symm.trans failed
      · rfl
      all_goals cases asked.symm.trans given
    · rintro rfl
      exact .skipped asked
  · rw [if_neg null]
    rw [Value.isNull_eq_false_iff.mpr null] at asked
    constructor
    · rintro (failed | skipped | ⟨-, failed⟩ | ⟨-, value, refused⟩ | ⟨-, value, taken⟩)
      · cases asked.symm.trans failed
      · cases asked.symm.trans skipped
      · cases read.symm.trans failed
      · cases read.symm.trans value
        rw [refused]
      · cases read.symm.trans value
        rw [taken]
    · rintro rfl
      cases outcome : (w.field c).type.read (values c) with
      | ok content => exact .put asked read outcome
      | error cause => exact .refused asked read outcome

theorem puts_ok_shown (shown : w.Shows r.row c (values c)) {next : ρ} :
    w.Puts r aliasName c record (.ok next) ↔
      (∀ cause, ¬ w.Refuses values c cause) ∧ next = w.take values record c := by
  rw [puts_shown shown]
  unfold Refuses take FieldBinding.take
  by_cases null : values c = .null
  · simp [null]
  · cases (w.field c).type.read (values c) <;> simp [null]

theorem puts_error_shown (shown : w.Shows r.row c (values c)) {e : Error} :
    w.Puts r aliasName c record (.error e) ↔
      ∃ cause, w.Refuses values c cause ∧ e = .materialization aliasName c.property cause := by
  rw [puts_shown shown]
  unfold Refuses
  by_cases null : values c = .null
  · simp [null]
  · cases (w.field c).type.read (values c) <;> simp [null]

theorem fills_shown {cs : List Column} (shown : ∀ c ∈ cs, w.Shows r.row c (values c))
    {last : ρ} :
    w.Fills r aliasName cs record last ↔
      (∀ c ∈ cs, ∀ cause, ¬ w.Refuses values c cause) ∧ last = cs.foldl (w.take values) record := by
  induction cs generalizing record with
  | nil =>
    constructor
    · rintro ⟨⟩
      exact ⟨(fun c member => by cases member), rfl⟩
    · rintro ⟨-, rfl⟩
      exact .nil _
  | cons c rest ih =>
    have later {next : ρ} : w.Fills r aliasName rest next last ↔
        (∀ b ∈ rest, ∀ cause, ¬ w.Refuses values b cause) ∧ last = rest.foldl (w.take values) next :=
      ih fun b member => shown b (List.mem_cons_of_mem _ member)
    simp only [fills_cons, puts_ok_shown (shown c List.mem_cons_self), later, List.forall_mem_cons,
      List.foldl_cons]
    constructor
    · rintro ⟨next, ⟨own, rfl⟩, others, rfl⟩
      exact ⟨⟨own, others⟩, rfl⟩
    · rintro ⟨⟨own, others⟩, rfl⟩
      exact ⟨_, ⟨own, rfl⟩, others, rfl⟩

theorem ends_shown {cs : List Column} (shown : ∀ c ∈ cs, w.Shows r.row c (values c)) {e : Error} :
    w.Ends r aliasName cs record e ↔ ∃ before c after cause, cs = before ++ c :: after ∧
      (∀ b ∈ before, ∀ cause, ¬ w.Refuses values b cause) ∧ w.Refuses values c cause ∧
      e = .materialization aliasName c.property cause := by
  unfold Ends
  constructor
  · rintro ⟨before, c, after, mid, rfl, filled, failed⟩
    rw [fills_shown fun b member => shown b (List.mem_append_left _ member)] at filled
    rw [puts_error_shown (shown c (by simp))] at failed
    obtain ⟨cause, refused, same⟩ := failed
    exact ⟨before, c, after, cause, rfl, filled.1, refused, same⟩
  · rintro ⟨before, c, after, cause, rfl, willing, refused, same⟩
    refine ⟨before, c, after, before.foldl (w.take values) record, rfl, ?_, ?_⟩
    · rw [fills_shown fun b member => shown b (List.mem_append_left _ member)]
      exact ⟨willing, rfl⟩
    · rw [puts_error_shown (shown c (by simp))]
      exact ⟨cause, refused, same⟩

theorem refuses_cause {cause : ValueError} (refused : w.Refuses values c cause) :
    cause.isUnexpectedNull = false := by
  obtain ⟨given, failed⟩ := refused
  exact FieldType.read_given (Value.isNull_eq_false_iff.mpr given) _ failed

theorem recordsValues_of_records {result : Except Error (Option ρ)}
    (records : w.Records r aliasName m blank result)
    (shown : ∀ c ∈ m.columns, w.Shows r.row c (values c)) :
    w.RecordsValues aliasName m blank values result := by
  have deciding : ∀ c ∈ m.deciding, w.Shows r.row c (values c) := fun c member =>
    shown c (List.mem_filter.mp member).1
  obtain ⟨some_given, unfailing⟩ := firstOther_shown deciding
  have failed (e : Error) : result = .error e ↔ (∃ c ∈ m.deciding, values c ≠ .null) ∧
      w.Ends r aliasName m.columns blank e := by
    rw [records.failed, some_given]
    simp [unfailing]
  constructor
  · rw [records.absent]
    refine forall₂_congr fun c member => ?_
    rw [(deciding c member).1, Except.ok.injEq, Value.isNull_iff]
  · intro record
    rw [records.present, some_given, fills_shown shown]
  · intro e
    rw [failed, ends_shown shown]
  · intro aliasName' property cause ended
    rw [failed, ends_shown shown] at ended
    obtain ⟨-, before, c, after, cause', -, -, refused, same⟩ := ended
    cases same
    exact refuses_cause refused

end Wiring

/-- Reading a record of a mapping that passed its check, under a layout that was found for
    the stores. -/
theorem read_records {ρ : Type} {header leads : List String} {members : List Member}
    {layout : Layout} (resolved : Layout.resolve header members leads = .ok layout) {i : Nat}
    {member : Member} (found : members[i]? = some member) {lead : String}
    (own : leads[i]? = some lead) {blank : ρ} {bindings : List (FieldBinding ρ)}
    (valid : (RecordMapping.ofBindings member.mapping blank bindings).validate = .ok ()) :
    ∃ w : Wiring ρ, w.Of header lead member.mapping bindings ∧ ∀ (row : Row) (query : Query),
      let result := Reading.read ⟨row, layout, query⟩ i
        (RecordMapping.ofBindings member.mapping blank bindings)
      w.Records ⟨row, layout, query⟩ member.aliasName member.mapping blank result ∧
      ∀ values : Column → Value,
        (∀ c ∈ member.mapping.columns, w.Shows row c (values c)) →
        w.RecordsValues member.aliasName member.mapping blank values result := by
  obtain ⟨store, stored, laid⟩ := storeLayouts_getElem? (resolve_layout.mp resolved) found own
  unfold StoreLayout.of at laid
  cases located : locate header member.aliasName lead member.mapping.columns with
  | error e =>
    rw [located] at laid
    cases laid
  | ok ordinals =>
    rw [located] at laid
    cases laid
    obtain ⟨shape, cells⟩ := located_cells located
    obtain ⟨field, last⟩ := Wiring.exists_field valid
    let w : Wiring ρ := ⟨cellUnder header lead, field⟩
    have wired : w.Of header lead member.mapping bindings := ⟨cells, last⟩
    refine ⟨w, wired, fun row query => ?_⟩
    intro result
    have read : result = Reading.readCells ⟨row, layout, query⟩ member w.cell
        (RecordMapping.ofBindings member.mapping blank bindings) := by
      dsimp only [result]
      unfold Reading.read
      rw [stored]
      dsimp only
      rw [shape, presence_cells, Reading.fill_eq_foldlM]
      rfl
    have records : w.Records ⟨row, layout, query⟩ member.aliasName member.mapping blank result := by
      rw [read]
      exact Wiring.records_readCells wired rfl
    exact ⟨records, fun values shown => Wiring.recordsValues_of_records records shown⟩

def Sample.bookFields : List (FieldBinding (Int64 × Option Int64)) :=
  [⟨"id", .int64, fun n record => (n, record.2)⟩,
    ⟨"author", .optional .int64, fun author record => (record.1, author)⟩,
    ⟨"place", .value, fun _ record => record⟩]

theorem read_records_sample :
    let header := ["A_id", "A_name", "B_id", "B_author_id", "B_place"]
    let records := RecordMapping.ofBindings Sample.books.mapping (0, some 1) Sample.bookFields
    let row (id author : Value) : Row :=
      ⟨[.ofValue (.integer 1), .ofValue .null, .ofValue id, .ofValue author, .ofValue .null]⟩
    ∃ layout, Layout.resolve header [Sample.authors, Sample.books] ["A_", "B_"] = .ok layout ∧
      records.validate = .ok () ∧ ∀ query : Query,
        Reading.read ⟨row .null (.integer 5), layout, query⟩ 1 records = .ok none ∧
        Reading.read ⟨row (.text "7") .null, layout, query⟩ 1 records = .ok (some (7, some 1)) := by
  intro header records row
  let layout : Layout := ⟨[⟨"authors", [0, 1], [0]⟩, ⟨"books", [2, 3, 4], [0]⟩]⟩
  have resolved :
      Layout.resolve header [Sample.authors, Sample.books] ["A_", "B_"] = .ok layout := by rfl
  have valid : records.validate = .ok () := by rfl
  obtain ⟨w, wired, reads⟩ := read_records resolved (i := 1) rfl rfl valid
  let id : Column := ⟨"id", "id", .integer, true⟩
  let author : Column := ⟨"author", "author_id", .integer, false⟩
  let place : Column := ⟨"place", "place", .blob, false⟩
  have columns : Sample.books.mapping.columns = [id, author, place] := rfl
  have deciding : Sample.books.mapping.deciding = [id] := by rfl
  have id_cell : w.cell id = 2 := (Option.some.inj (wired.cell id (by decide))).symm
  have author_cell : w.cell author = 3 := (Option.some.inj (wired.cell author (by decide))).symm
  have place_cell : w.cell place = 4 := (Option.some.inj (wired.cell place (by decide))).symm
  refine ⟨layout, resolved, valid, fun query => ⟨?_, ?_⟩⟩
  · refine (reads _ query).1.absent.mpr fun c member => ?_
    rw [deciding, List.mem_singleton] at member
    rw [member, id_cell]
    rfl
  · let values (c : Column) : Value := if c = id then .text "7" else .null
    have shown : ∀ c ∈ Sample.books.mapping.columns,
        w.Shows (row (.text "7") .null) c (values c) := by
      intro c member
      rw [columns] at member
      unfold Wiring.Shows
      simp only [List.mem_cons, List.not_mem_nil, or_false] at member
      rcases member with rfl | rfl | rfl
      · rw [id_cell]
        exact ⟨rfl, rfl⟩
      · rw [author_cell]
        exact ⟨rfl, rfl⟩
      · rw [place_cell]
        exact ⟨rfl, rfl⟩
    have field : w.field id = ⟨"id", .int64, fun n record => (n, record.2)⟩ :=
      (Option.some.inj (wired.field id (by decide))).symm
    have read : FieldType.read .int64 (.text "7") = .ok (7 : Int64) := by rfl
    have one : ∃ c ∈ Sample.books.mapping.deciding, values c ≠ .null :=
      ⟨id, by rw [deciding]; exact List.mem_singleton_self id, by decide⟩
    have willing : ∀ c ∈ Sample.books.mapping.columns, ∀ cause, ¬ w.Refuses values c cause := by
      rintro c - cause ⟨given, failed⟩
      have own : c = id := by
        by_contra other
        exact given (if_neg other)
      subst own
      rw [field] at failed
      cases read.symm.trans failed
    refine (((reads _ query).2 values shown).present _).mpr ⟨one, willing, ?_⟩
    have first : w.take values (0, some 1) id = (7, some 1) := by
      unfold Wiring.take
      rw [field, if_neg (by decide)]
      rfl
    rw [columns, List.foldl_cons, first]
    rfl

end Joinery
