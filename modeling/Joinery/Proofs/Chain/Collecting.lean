import Joinery.Chain.Run
import Joinery.Proofs.Chain.Windowing
import Joinery.Proofs.Sql.Meaning

/-!
Collecting asks for no more than its window needs. How many events it asks for, and the
failure that stops it, follow from the events it is allowed; rows before the window are not
built, and nothing behind it is asked for.
-/
namespace Joinery

def Window.quota (w : Window) : Option Nat :=
  w.limit.map fun n => if n = 0 then 0 else w.start + n

def Window.allowed (w : Window) (events : List Event) : List Event :=
  match w.quota with
  | none => events
  | some k => events.take k

def Window.slice {α : Type} (w : Window) (xs : List α) : List α :=
  match w.limit with
  | none => xs.drop w.start
  | some n => (xs.drop w.start).take n

section
variable {τ : Type} (build : Row → Except Error τ) (wrap : String → Error)

/-- The failure that the event at a position brings on, if any: not to arrive, or, from the
    start of the window on, not to be built. -/
def Event.fault? (start i : Nat) : Event → Option Error
  | .failure cause => some (wrap cause)
  | .row r =>
    if i < start then none
    else
      match build r with
      | .ok _ => none
      | .error e => some e

def faults (start : Nat) (events : List Event) : List (Option Error) :=
  events.mapIdx (Event.fault? build wrap start)

end

/-- How often a row was asked for: up to the first failure, up to the last event that is
    allowed, or once more to find the end. -/
def asked (quota : Option Nat) (fs : List (Option Error)) : Nat :=
  match fs.findIdx? Option.isSome with
  | some i => i + 1
  | none => if quota = some fs.length then fs.length else fs.length + 1

variable {τ : Type} {build : Row → Except Error τ} {wrap : String → Error}

theorem faults_skip (start : Nat) (r : Row) (rest : List Event) :
    faults build wrap (start + 1) (.row r :: rest) = none :: faults build wrap start rest := by
  have shift : (fun i => Event.fault? build wrap (start + 1) (i + 1)) =
      Event.fault? build wrap start := by
    funext i event
    cases event <;> simp [Event.fault?]
  rw [faults, List.mapIdx_cons, shift]
  rfl

theorem faults_cons (event : Event) (rest : List Event) :
    faults build wrap 0 (event :: rest) =
      event.fault? build wrap 0 0 :: faults build wrap 0 rest := by
  have shift : (fun i => Event.fault? build wrap 0 (i + 1)) = Event.fault? build wrap 0 := by
    funext i event
    cases event <;> rfl
  rw [faults, List.mapIdx_cons, shift]
  rfl

theorem faults_failure (build : Row → Except Error τ) (wrap : String → Error) (start : Nat)
    (cause : String) (rest : List Event) :
    ∃ fs, faults build wrap start (.failure cause :: rest) = some (wrap cause) :: fs := by
  rw [faults, List.mapIdx_cons]
  exact ⟨_, rfl⟩

theorem fault_row (r : Row) : (Event.row r).fault? build wrap 0 0 =
    match build r with
    | .ok _ => none
    | .error e => some e := rfl

theorem asked_some (quota : Option Nat) (e : Error) (fs : List (Option Error)) :
    asked quota (some e :: fs) = 1 := by
  simp [asked, List.findIdx?_cons]

theorem asked_none {quota quota' : Option Nat} (fs : List (Option Error))
    (shift : quota' = some (fs.length + 1) ↔ quota = some fs.length) :
    asked quota' (none :: fs) = asked quota fs + 1 := by
  unfold asked
  rw [List.findIdx?_cons]
  cases fs.findIdx? Option.isSome with
  | some i => rfl
  | none =>
    simp only [Option.isSome_none, Bool.false_eq_true, if_false, Option.map_none,
      List.length_cons, shift]
    split <;> rfl

def Asks (quota : Option Nat) (fs : List (Option Error)) (c : Collected τ) : Prop :=
  c.failure = fs.findSome? id ∧ c.pulls = asked quota fs

theorem asks_stop (quota : Option Nat) (e : Error) (fs : List (Option Error)) :
    Asks quota (some e :: fs) (Collected.stop (some e) : Collected τ) :=
  ⟨rfl, (asked_some quota e fs).symm⟩

theorem asks_next {quota quota' : Option Nat} {fs : List (Option Error)} {c c' : Collected τ}
    (asks : Asks quota fs c) (failure : c'.failure = c.failure) (pulls : c'.pulls = c.pulls + 1)
    (shift : quota' = some (fs.length + 1) ↔ quota = some fs.length) :
    Asks quota' (none :: fs) c' := by
  refine ⟨failure.trans asks.1, ?_⟩
  rw [pulls, asks.2, asked_none fs shift]

theorem asks_drain {skip : Nat} {left : Option Nat} (wanted : left ≠ some 0)
    (events : List Event) :
    Asks (left.map (skip + ·)) (faults build wrap skip (reachable skip left events))
      (Collected.drain build wrap skip left events) := by
  fun_induction Collected.drain build wrap skip left events with
  | case1 skip left =>
    -- fewer events than wanted: the end is found by asking once more
    rw [reachable_nil]
    have unmet : left.map (skip + ·) ≠ some 0 := by
      cases left with
      | none => simp
      | some n =>
        intro met
        have : skip + n = 0 := Option.some.inj met
        exact wanted (congrArg some (by omega))
    have asked_once : asked (left.map (skip + ·)) [] = 1 := if_neg unmet
    cases skip <;> exact ⟨rfl, asked_once.symm⟩
  | case2 skip left cause rest =>
    obtain ⟨later, shape⟩ := reachable_first (.failure cause) rest skip wanted
    obtain ⟨fs, first⟩ := faults_failure build wrap skip cause later
    rw [shape, first]
    exact asks_stop _ _ fs
  | case3 skip left r rest ih =>
    rw [reachable_skip, faults_skip]
    refine asks_next (ih wanted) rfl rfl ?_
    cases left with
    | none => simp
    | some n => simp; omega
  | case4 left r rest e failed =>
    rw [reachable_wanted _ _ wanted, faults_cons, fault_row, failed]
    exact asks_stop _ _ _
  | case5 r rest x made ih =>
    rw [reachable_wanted _ _ wanted, faults_cons, fault_row, made]
    exact asks_next (ih wanted) rfl rfl (by simp)
  | case6 r rest x made n last =>
    have one : n = 1 := by
      have : n ≠ 0 := fun none => wanted (congrArg some none)
      omega
    rw [reachable_wanted _ _ wanted, faults_cons, fault_row, made, one]
    exact ⟨by simp [reachable, faults], by simp [reachable, faults, asked]⟩
  | case7 r rest x made n more ih =>
    have wanted' : some (n - 1) ≠ some 0 := by simp; omega
    rw [reachable_wanted _ _ wanted, faults_cons, fault_row, made]
    refine asks_next (ih wanted') rfl rfl ?_
    simp
    omega

theorem exists_rows_cons {r : Row} {rest : List Event} {P : List Row → Prop} :
    (∃ rows, Event.row r :: rest = rows.map .row ∧ P rows) ↔
      ∃ rows, rest = rows.map .row ∧ P (r :: rows) := by
  constructor
  · rintro ⟨rows, same, holds⟩
    cases rows with
    | nil => cases same
    | cons r' rows =>
      injection same with first others
      injection first with first
      subst first
      exact ⟨rows, others, holds⟩
  · rintro ⟨rows, rfl, holds⟩
    exact ⟨r :: rows, rfl, holds⟩

theorem gathered_cons_ok {r : Row} {rest : List Event} {xs : List τ} :
    gathered build wrap 0 (.row r :: rest) = .ok xs ↔
      ∃ x ys, build r = .ok x ∧ gathered build wrap 0 rest = .ok ys ∧ xs = x :: ys := by
  rw [gathered_build]
  cases build r with
  | error e => simp [Except.bind]
  | ok x =>
    cases gathered build wrap 0 rest with
    | error e => simp [Except.bind, Except.map]
    | ok ys => simp [Except.bind, Except.map, eq_comm]

theorem gathered_ok_iff {skip : Nat} {reached : List Event} {xs : List τ} :
    gathered build wrap skip reached = .ok xs ↔
      ∃ rows : List Row, reached = rows.map .row ∧ (rows.drop skip).map build = xs.map .ok := by
  -- skipped rows only have to arrive; the others pair off with the results
  induction reached generalizing skip xs with
  | nil =>
    have nothing : gathered build wrap skip [] = .ok ([] : List τ) := by cases skip <;> rfl
    rw [nothing]
    constructor
    · rintro ⟨⟩
      exact ⟨[], rfl, by simp⟩
    · rintro ⟨rows, none, built⟩
      rw [List.map_eq_nil_iff.mp none.symm, List.drop_nil, List.map_nil] at built
      rw [List.map_eq_nil_iff.mp built.symm]
  | cons event rest ih =>
    cases event with
    | failure cause =>
      rw [gathered_failure]
      constructor
      · rintro ⟨⟩
      · rintro ⟨rows, same, -⟩
        cases rows <;> cases same
    | row r =>
      rw [exists_rows_cons]
      cases skip with
      | succ skip =>
        rw [gathered_skip, ih]
        rfl
      | zero =>
        rw [gathered_cons_ok]
        constructor
        · rintro ⟨x, ys, made, others, rfl⟩
          obtain ⟨rows, same, later⟩ := ih.mp others
          refine ⟨rows, same, ?_⟩
          rw [List.drop_zero] at later ⊢
          rw [List.map_cons, List.map_cons, made, later]
        · rintro ⟨rows, same, built⟩
          cases xs with
          | nil => cases built
          | cons x ys =>
            injection built with made later
            exact ⟨x, ys, made, ih.mpr ⟨rows, same, later⟩, rfl⟩

theorem drain_skipped (build : Row → Except Error τ) (wrap : String → Error)
    (left : Option Nat) (skipped : List Row) (rest : List Event) :
    let c := Collected.drain build wrap 0 left rest
    Collected.drain build wrap skipped.length left (skipped.map .row ++ rest) =
      { c with pulls := c.pulls + skipped.length } := by
  induction skipped with
  | nil => rfl
  | cons r skipped ih => exact congrArg Collected.afterSkip ih

theorem drain_take {skip k : Nat} (events : List Event) :
    Collected.drain build wrap skip (some (k + 1)) (events.take (skip + (k + 1))) =
      Collected.drain build wrap skip (some (k + 1)) events := by
  -- each event uses up one of the allowance, whether it is skipped or built
  induction events generalizing skip k with
  | nil => rw [List.take_nil]
  | cons event rest ih =>
    have more : skip + (k + 1) = (skip + k) + 1 := rfl
    rw [more, List.take_succ_cons]
    cases event with
    | failure cause => cases skip <;> rfl
    | row r =>
      cases skip with
      | succ skip =>
        have others : Collected.drain build wrap skip (some (k + 1)) _ = _ := ih
        rw [Nat.succ_add]
        exact congrArg Collected.afterSkip others
      | zero =>
        unfold Collected.drain
        cases build r with
        | error e => rfl
        | ok x =>
          cases k with
          | zero => rfl
          | succ k => exact congrArg (Collected.afterResult x) ih

theorem length_faults (start : Nat) (events : List Event) :
    (faults build wrap start events).length = events.length := List.length_mapIdx

theorem asked_le {k : Nat} {fs : List (Option Error)} (few : fs.length ≤ k) :
    asked (some k) fs ≤ k := by
  unfold asked
  cases found : fs.findIdx? Option.isSome with
  | some i =>
    have inside := (List.findIdx?_eq_some_iff_findIdx_eq.mp found).1
    dsimp only
    omega
  | none =>
    dsimp only
    split
    · omega
    · rename_i more
      have : k ≠ fs.length := fun same => more (congrArg some same)
      omega

theorem quota_eq (w : Window) (wanted : w.limit ≠ some 0) :
    w.quota = w.limit.map (w.start + ·) := by
  unfold Window.quota
  cases limit : w.limit with
  | none => rfl
  | some n =>
    have : n ≠ 0 := fun none => wanted (limit.trans (congrArg some none))
    rw [Option.map_some, Option.map_some, if_neg this]

theorem allowed_eq (w : Window) (wanted : w.limit ≠ some 0) (events : List Event) :
    w.allowed events = reachable w.start w.limit events := by
  rw [Window.allowed, quota_eq w wanted]
  cases w.limit <;> rfl

structure Windowed (build : Row → Except Error τ) (wrap : String → Error)
    (collect : Window → List Event → Collected τ) : Prop where
  failure : ∀ w events,
    (collect w events).failure = (faults build wrap w.start (w.allowed events)).findSome? id
  pulls : ∀ w events,
    (collect w events).pulls = asked w.quota (faults build wrap w.start (w.allowed events))
  frugal : ∀ w events k, w.quota = some k → (collect w events).pulls ≤ k
  results : ∀ w events, (collect w events).failure = none →
    ∃ rows : List Row, w.allowed events = rows.map .row ∧
      (rows.drop w.start).map build = (collect w events).results.map .ok
  few : ∀ w events n, w.limit = some n → (collect w events).failure = none →
    (collect w events).results.length ≤ n
  unbuilt : ∀ (w : Window) (rows rows' : List Row) (rest : List Event),
    rows.length = w.start → rows'.length = w.start →
      collect w (rows.map .row ++ rest) = collect w (rows'.map .row ++ rest)
  unasked : ∀ w events events' k, w.quota = some k → events.take k = events'.take k →
    collect w events = collect w events'
  sliced : ∀ w events, (collect .all events).failure = none →
    (collect w events).failure = none ∧
      (collect w events).results = w.slice (collect .all events).results

theorem outcome_ok_iff {c : Collected τ} {xs : List τ} :
    c.outcome = .ok xs ↔ c.failure = none ∧ c.results = xs := by
  obtain ⟨results, pulls, failure⟩ := c
  cases failure <;> simp [Collected.outcome]

theorem window_none (w : Window) (none : w.limit = some 0) (events : List Event) :
    Collected.window w build wrap events = ⟨[], 0, .none⟩ := if_pos none

theorem window_some (w : Window) (wanted : w.limit ≠ some 0) (events : List Event) :
    Collected.window w build wrap events = Collected.drain build wrap w.start w.limit events :=
  if_neg wanted

theorem asks_window (w : Window) (events : List Event) :
    Asks w.quota (faults build wrap w.start (w.allowed events))
      (Collected.window w build wrap events) := by
  by_cases none : w.limit = some 0
  · rw [window_none w none, Window.allowed, Window.quota, none]
    exact ⟨rfl, rfl⟩
  · rw [window_some w none, allowed_eq w none, quota_eq w none]
    exact asks_drain none events

theorem allowed_none (w : Window) (none : w.limit = some 0) (events : List Event) :
    w.allowed events = [] := by
  rw [Window.allowed, Window.quota, none]
  rfl

theorem window_ok_iff {w : Window} {events : List Event} {xs : List τ} :
    (Collected.window w build wrap events).outcome = .ok xs ↔
      ∃ rows : List Row, w.allowed events = rows.map .row ∧
        (rows.drop w.start).map build = xs.map .ok := by
  rw [outcome_window, Window.harvest]
  by_cases none : w.limit = some 0
  · rw [if_pos none, allowed_none w none]
    constructor
    · rintro ⟨⟩
      exact ⟨[], rfl, by rw [List.drop_nil]; rfl⟩
    · rintro ⟨rows, nothing, built⟩
      rw [List.map_eq_nil_iff.mp nothing.symm, List.drop_nil] at built
      rw [List.map_eq_nil_iff.mp built.symm]
  · rw [if_neg none, allowed_eq w none]
    exact gathered_ok_iff

theorem length_allowed_le {w : Window} {k : Nat} (quota : w.quota = some k)
    (events : List Event) : (w.allowed events).length ≤ k := by
  rw [Window.allowed, quota]
  exact List.length_take_le k events

theorem allowed_all (events : List Event) : Window.all.allowed events = events := rfl

theorem slice_rows (w : Window) (rows : List Row) :
    ∃ reached : List Row, w.allowed (rows.map .row) = reached.map .row ∧
      reached.drop w.start = w.slice rows := by
  by_cases none : w.limit = some 0
  · refine ⟨[], allowed_none w none _, ?_⟩
    rw [Window.slice, none, List.drop_nil]
    rfl
  · rw [allowed_eq w none, Window.slice]
    cases w.limit with
    | none => exact ⟨rows, rfl, rfl⟩
    | some n =>
      refine ⟨rows.take (w.start + n), List.map_take.symm, ?_⟩
      rw [List.drop_take, Nat.add_sub_cancel_left]

theorem map_slice {α β : Type} (f : α → β) (w : Window) (xs : List α) :
    (w.slice xs).map f = w.slice (xs.map f) := by
  unfold Window.slice
  cases w.limit with
  | none => exact List.map_drop
  | some n => rw [List.map_take, List.map_drop]

theorem unbuilt_window (w : Window) (rows rows' : List Row) (rest : List Event)
    (before : rows.length = w.start) (before' : rows'.length = w.start) :
    Collected.window w build wrap (rows.map .row ++ rest) =
      Collected.window w build wrap (rows'.map .row ++ rest) := by
  by_cases none : w.limit = some 0
  · rw [window_none w none, window_none w none]
  · have passed := drain_skipped build wrap w.limit rows rest
    have passed' := drain_skipped build wrap w.limit rows' rest
    rw [before] at passed
    rw [before'] at passed'
    rw [window_some w none, window_some w none, passed, passed']

theorem window_take {w : Window} {k : Nat} (quota : w.quota = some k) (events : List Event) :
    Collected.window w build wrap (events.take k) = Collected.window w build wrap events := by
  by_cases none : w.limit = some 0
  · rw [window_none w none, window_none w none]
  · rw [window_some w none, window_some w none]
    rw [quota_eq w none] at quota
    obtain ⟨n, limit, rfl⟩ := Option.map_eq_some_iff.mp quota
    cases n with
    | zero => exact absurd limit none
    | succ n =>
      rw [limit]
      exact drain_take events

theorem window_slice {w : Window} {events : List Event} {xs : List τ}
    (whole : (Collected.window .all build wrap events).outcome = .ok xs) :
    (Collected.window w build wrap events).outcome = .ok (w.slice xs) := by
  obtain ⟨rows, same, built⟩ := window_ok_iff.mp whole
  rw [allowed_all] at same
  have built : rows.map build = xs.map .ok := built
  obtain ⟨reached, allowed, inside⟩ := slice_rows w rows
  refine window_ok_iff.mpr ⟨reached, by rw [same]; exact allowed, ?_⟩
  rw [inside, map_slice, map_slice, built]

theorem windowed_window (build : Row → Except Error τ) (wrap : String → Error) :
    Windowed build wrap fun w events => Collected.window w build wrap events where
  failure w events := (asks_window w events).1
  pulls w events := (asks_window w events).2
  frugal w events k quota := by
    have few : (faults build wrap w.start (w.allowed events)).length ≤ k := by
      rw [length_faults]
      exact length_allowed_le quota events
    rw [(asks_window w events).2, quota]
    exact asked_le few
  results w events well := window_ok_iff.mp (outcome_ok_iff.mpr ⟨well, rfl⟩)
  few w events n limit well := by
    obtain ⟨rows, allowed, built⟩ := window_ok_iff.mp (outcome_ok_iff.mpr ⟨well, rfl⟩)
    have lengths := congrArg List.length built
    rw [List.length_map, List.length_map, List.length_drop] at lengths
    have within : rows.length ≤ w.start + n := by
      have quota : w.quota = some (if n = 0 then 0 else w.start + n) := by
        rw [Window.quota, limit]
        rfl
      have short := length_allowed_le quota events
      rw [allowed, List.length_map] at short
      split at short <;> omega
    omega
  unbuilt := unbuilt_window
  unasked w events events' k quota same := by
    rw [← window_take quota events, same, window_take quota events']
  sliced w events well := outcome_ok_iff.mp (window_slice (outcome_ok_iff.mpr ⟨well, rfl⟩))

/-- A cursor whose columns do not fit the stores is not read at all; from any other one
    windows of results are collected, whatever its events. -/
theorem collect_windowed (columns : List String) (members : List Sql.Member) (q : Sql.Query)
    (build : Reading → Except Error τ) :
    (∀ e, Layout.resolve columns members q.prefixes = .error e → ∀ w events,
      Cursor.collect ⟨columns, events⟩ members q w build = ⟨[], 0, some e⟩) ∧
    ∀ layout, Layout.resolve columns members q.prefixes = .ok layout →
      Windowed (fun row => build ⟨row, layout, q⟩) (.execution q.sql q.params)
        fun w events => Cursor.collect ⟨columns, events⟩ members q w build := by
  constructor
  · intro e misfit w events
    unfold Cursor.collect
    rw [misfit]
  · intro layout fits
    have reads : (fun w events => Cursor.collect ⟨columns, events⟩ members q w build) =
        fun w events => Collected.window w (fun row => build ⟨row, layout, q⟩)
          (.execution q.sql q.params) events := by
      funext w events
      unfold Cursor.collect
      rw [fits]
    rw [reads]
    exact windowed_window _ _

theorem collect_windowed_sample :
    let header := ["A_id", "A_name"]
    let query : Sql.Query := { Sql.Query.empty with prefixes := ["A_"] }
    let identity (reading : Reading) := (reading.row.value 0).mapError reading.executionError
    let unreadable := Event.row ⟨[]⟩
    let second := Event.row ⟨[.ofValue (.integer 2), .ofValue .null]⟩
    let script := [unreadable, second, .failure "lost"]
    let collect (w : Window) (events : List Event) :=
      Cursor.collect ⟨header, events⟩ [Sql.Sample.authors] query w identity
    (collect ⟨1, some 1⟩ script).failure = none ∧
      (collect ⟨1, some 1⟩ script).pulls = 2 ∧
      (∀ events, (collect ⟨1, some 1⟩ events).pulls ≤ 2) ∧
      collect ⟨1, some 1⟩ [unreadable, second] = collect ⟨1, some 1⟩ [second, second] ∧
      (collect ⟨1, none⟩ script).failure = some (.execution "" [] "lost") ∧
      (collect .all script).failure = some (.execution "" [] noSuchCell) := by
  intro header query identity unreadable second script collect
  have fits : Layout.resolve header [Sql.Sample.authors] query.prefixes =
      .ok ⟨[⟨"authors", [0, 1], [0]⟩]⟩ := by rfl
  have windowed := (collect_windowed header [Sql.Sample.authors] query identity).2 _ fits
  refine ⟨?_, ?_, ?_, ?_, ?_, ?_⟩
  · exact windowed.failure ⟨1, some 1⟩ script
  · exact windowed.pulls ⟨1, some 1⟩ script
  · exact fun events => windowed.frugal ⟨1, some 1⟩ events 2 rfl
  · exact windowed.unbuilt ⟨1, some 1⟩ [_] [_] [second] rfl rfl
  · exact windowed.failure ⟨1, none⟩ script
  · exact windowed.failure .all script

end Joinery
