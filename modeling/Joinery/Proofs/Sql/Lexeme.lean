import Joinery.Proofs.Decimal.Numeral
import Joinery.Sql.Token
import Mathlib.Data.List.Basic

/-!
The text of a statement, cut into lexemes by the lexical rules of a dialect and
without any knowledge of the tokens it was written from. Names and strings are
quoted, and the closing character doubled is their only escape. Words and numbers
go as far as word characters follow, operators as far as a longer one is known.
Placeholders without a number are counted.
-/
namespace Joinery.Sql

inductive Lexeme where
  | word (text : String)
  | name (text : String)
  | string (text : String)
  | int (n : Int)
  | param (n : Nat)
  | mark (text : String)
deriving DecidableEq, Repr

namespace Lexeme

def asks : Lexeme → Nat
  | .param _ => 1
  | _ => 0

abbrev Scanner (α : Type) := List Char → Option (α × List Char)

def blank (c : Char) : Bool := c == ' ' || c == '\t' || c == '\n' || c == '\r'

def wordStart (c : Char) : Bool := c.isAlpha || c == '_'

def wordChar (c : Char) : Bool := c.isAlphanum || c == '_'

/-- Up to the first closing character that is not doubled, pairs of it read as one. -/
def upTo (q : Char) : Scanner (List Char)
  | [] => none
  | c :: rest =>
    if c = q then
      match rest with
      | [] => some ([], [])
      | c' :: rest' =>
        if c' = q then (upTo q rest').map fun r => (q :: r.1, r.2) else some ([], rest)
    else (upTo q rest).map fun r => (c :: r.1, r.2)

def enclosed (q : Delimiters) : Scanner String := fun cs =>
  (q.opening.isPrefixOf? cs).bind fun inner =>
    (upTo q.closing inner).map fun r => (String.ofList r.1, r.2)

def numeral : Scanner Nat := fun cs =>
  let run := cs.takeWhile wordChar
  if run ≠ [] ∧ run.all Char.isDigit then
    some (Nat.ofDigitChars 10 run 0, cs.dropWhile wordChar)
  else none

def integer : Scanner Int
  | '-' :: rest => (numeral rest).map fun r => (-(r.1 : Int), r.2)
  | cs => (numeral cs).map fun r => ((r.1 : Int), r.2)

def numbered (lead : List Char) : Scanner Nat := fun cs => (lead.isPrefixOf? cs).bind numeral

def placeholder (d : Dialect) (asked : Nat) : Scanner Nat :=
  match d with
  | .postgres => numbered ['$']
  | .tsql => numbered ['@', 'p']
  | .oracle => numbered [':']
  | _ => fun cs => (['?'].isPrefixOf? cs).map fun rest => (asked + 1, rest)

def bareWord : Scanner String := fun cs =>
  if cs.head?.any wordStart then
    some (String.ofList (cs.takeWhile wordChar), cs.dropWhile wordChar)
  else none

/-- The longer marks come before those that they begin with. -/
def marks : List String := ["<>", "<=", ">=", "::", "<", ">", "=", ",", ".", "*", "(", ")"]

def knownMark : Scanner String := fun cs =>
  marks.findSome? fun m => (m.toList.isPrefixOf? cs).map fun rest => (m, rest)

def Scanner.as {α : Type} (s : Scanner α) (kind : α → Lexeme) : Scanner Lexeme :=
  fun cs => (s cs).map fun r => (kind r.1, r.2)

def scanners (d : Dialect) (asked : Nat) : List (Scanner Lexeme) := [
  (enclosed d.nameDelimiters).as .name,
  (enclosed singleQuotes).as .string,
  (enclosed nationalQuotes).as .string,
  integer.as .int,
  (placeholder d asked).as .param,
  bareWord.as .word,
  knownMark.as .mark]

def first (d : Dialect) (asked : Nat) : Scanner Lexeme := fun cs =>
  (scanners d asked).findSome? fun s => s cs

def scanFrom (d : Dialect) : Nat → Nat → List Char → Option (List Lexeme)
  | 0, _, _ => none
  | _ + 1, _, [] => some []
  | fuel + 1, asked, c :: rest =>
    if blank c then scanFrom d fuel asked rest
    else
      (first d asked (c :: rest)).bind fun r =>
        (scanFrom d fuel (asked + r.1.asks) r.2).map (r.1 :: ·)

def scan (d : Dialect) (s : String) : Option (List Lexeme) :=
  scanFrom d (s.toList.length + 1) 0 s.toList

variable {d : Dialect} {asked : Nat}

theorem upTo_other {q c : Char} (other : c ≠ q) (rest : List Char) :
    upTo q (c :: rest) = (upTo q rest).map fun r => (c :: r.1, r.2) := by
  cases rest <;> simp [upTo, other]

theorem upTo_doubled (q : Char) (s : List Char) {rest : List Char} (next : rest.head? ≠ some q) :
    upTo q (doubled q s ++ q :: rest) = some (s, rest) := by
  induction s with
  | nil =>
    cases rest with
    | nil => simp [doubled, upTo]
    | cons c rest =>
      have other : c ≠ q := fun same => next (congrArg some same)
      simp [doubled, upTo, other]
  | cons c s ih =>
    unfold doubled
    -- a closing character inside was doubled, so one of the pair is left to go on with
    by_cases same : c = q
    · rw [if_pos same, List.cons_append, List.cons_append, upTo, if_pos rfl, if_pos rfl, ih, same]
      rfl
    · rw [if_neg same, List.cons_append, upTo_other same, ih]
      rfl

theorem enclosed_enclose (q : Delimiters) (s : String) {rest : List Char}
    (next : rest.head? ≠ some q.closing) :
    enclosed q (q.enclose s.toList ++ rest) = some (s, rest) := by
  have split : q.enclose s.toList ++ rest =
      q.opening ++ (doubled q.closing s.toList ++ q.closing :: rest) := by
    simp [Delimiters.enclose]
  have opened := List.isPrefixOf?_eq_some_iff_append_eq.mpr split.symm
  rw [enclosed, opened, Option.bind_some, upTo_doubled q.closing s.toList next, Option.map_some,
    String.ofList_toList]

theorem enclosed_other {q : Delimiters} {o c : Char} {os cs : List Char}
    (opening : q.opening = o :: os) (other : c ≠ o) : enclosed q (c :: cs) = none := by
  have apart : (o == c) = false := by simp [Ne.symm other]
  simp [enclosed, opening, List.isPrefixOf?, apart]

/-- Nothing follows, or a character that no word, number or operator and no quoted text
    goes on with. -/
def Stop (rest : List Char) : Prop :=
  ∀ c, rest.head? = some c → c ∈ [',', '.', '*', '(', ')', ' ', ':']

theorem stop_wordChar {c : Char} (stops : c ∈ [',', '.', '*', '(', ')', ' ', ':']) :
    wordChar c = false := by
  simp only [List.mem_cons, List.not_mem_nil, or_false] at stops
  rcases stops with rfl | rfl | rfl | rfl | rfl | rfl | rfl <;> rfl

theorem takeWhile_word {w rest : List Char} (inside : w.all wordChar = true) (stop : Stop rest) :
    (w ++ rest).takeWhile wordChar = w ∧ (w ++ rest).dropWhile wordChar = rest := by
  have all : ∀ c ∈ w, wordChar c = true := List.all_eq_true.mp inside
  rw [List.takeWhile_append_of_pos all, List.dropWhile_append_of_pos all]
  cases rest with
  | nil => simp
  | cons c rest => simp [stop_wordChar (stop c rfl)]

theorem wordChar_of_isDigit {c : Char} (digit : c.isDigit = true) : wordChar c = true := by
  simp [wordChar, Char.isAlphanum, digit]

theorem numeral_toDigits (n : Nat) {rest : List Char} (stop : Stop rest) :
    numeral (Nat.toDigits 10 n ++ rest) = some (n, rest) := by
  have digits : ∀ c ∈ Nat.toDigits 10 n, c.isDigit = true :=
    fun c member => Nat.isDigit_of_mem_toDigits (by omega) (by omega) member
  have inside : (Nat.toDigits 10 n).all wordChar = true :=
    List.all_eq_true.mpr fun c member => wordChar_of_isDigit (digits c member)
  have some_digit : Nat.toDigits 10 n ≠ [] := Nat.toDigits_ne_nil
  obtain ⟨run, after⟩ := takeWhile_word inside stop
  rw [numeral, run, after, if_pos ⟨some_digit, List.all_eq_true.mpr digits⟩,
    Nat.ofDigitChars_ten_toDigits]

theorem toDigits_eq_cons (n : Nat) : ∃ c cs, Nat.toDigits 10 n = c :: cs ∧ c.isDigit = true := by
  obtain ⟨c, cs, shape⟩ := List.exists_cons_of_ne_nil (Nat.toDigits_ne_nil (n := n) (b := 10))
  refine ⟨c, cs, shape, ?_⟩
  apply Nat.isDigit_of_mem_toDigits (b := 10) (n := n) (by omega) (by omega)
  rw [shape]
  exact List.mem_cons_self

theorem integer_digit {c : Char} (digit : c.isDigit = true) (cs : List Char) :
    integer (c :: cs) = (numeral (c :: cs)).map fun r => ((r.1 : Int), r.2) := by
  have unsigned : c ≠ '-' := by
    rintro rfl
    exact absurd digit (by decide)
  unfold integer
  split
  · rename_i same
    exact absurd (List.cons.inj same).1 unsigned
  · rfl

theorem integer_toString (n : Int) {rest : List Char} (stop : Stop rest) :
    integer ((toString n).toList ++ rest) = some (n, rest) := by
  rw [Decimal.toList_toString]
  by_cases positive : 0 ≤ n
  · obtain ⟨c, cs, shape, digit⟩ := toDigits_eq_cons n.toNat
    have read := numeral_toDigits n.toNat stop
    rw [if_pos positive]
    rw [shape, List.cons_append] at read ⊢
    rw [integer_digit digit, read, Option.map_some, Int.toNat_of_nonneg positive]
  · have read := numeral_toDigits (-n).toNat stop
    rw [if_neg positive, List.cons_append, integer, read, Option.map_some]
    congr 2
    omega

def quotes : List Char := ['"', '\x60', '[', '\'']

theorem first_unquoted {c : Char} {cs : List Char} (unquoted : c ∉ quotes)
    (ordinary : c = 'N' → cs.head? ≠ some '\'') :
    first d asked (c :: cs) =
      ([integer.as .int, (placeholder d asked).as .param, bareWord.as .word,
        knownMark.as .mark] : List (Scanner Lexeme)).findSome? fun s => s (c :: cs) := by
  simp only [quotes, List.mem_cons, List.not_mem_nil, or_false, not_or] at unquoted
  obtain ⟨double, back, bracket, single⟩ := unquoted
  have name : enclosed d.nameDelimiters (c :: cs) = none := by
    cases d with
    | mysql => exact enclosed_other rfl back
    | tsql => exact enclosed_other rfl bracket
    | ansi | sqlite | postgres | duckdb | oracle => exact enclosed_other rfl double
  have string : enclosed singleQuotes (c :: cs) = none := enclosed_other rfl single
  -- an N begins a string only with a quote behind it
  have national : enclosed nationalQuotes (c :: cs) = none := by
    by_cases n : c = 'N'
    · subst n
      cases cs with
      | nil => rfl
      | cons c' cs =>
        have other : c' ≠ '\'' := fun same => ordinary rfl (congrArg some same)
        have apart : ('\'' == c') = false := by simp [Ne.symm other]
        simp [enclosed, nationalQuotes, List.isPrefixOf?, apart]
    · exact enclosed_other rfl n
  rw [first, scanners, List.findSome?_cons, List.findSome?_cons, List.findSome?_cons]
  simp only [Scanner.as, name, string, national, Option.map_none]

theorem first_name (s : String) {rest : List Char}
    (next : rest.head? ≠ some d.nameDelimiters.closing) :
    first d asked (d.quoteIdentifier s ++ rest) = some (.name s, rest) := by
  have read := enclosed_enclose d.nameDelimiters s next
  rw [first, scanners, List.findSome?_cons, Dialect.quoteIdentifier]
  simp only [Scanner.as, read, Option.map_some]

theorem first_string (s : String) {rest : List Char} (next : rest.head? ≠ some '\'') :
    first d asked (d.quoteString s ++ rest) = some (.string s, rest) := by
  have single : enclosed singleQuotes (singleQuotes.enclose s.toList ++ rest) = some (s, rest) :=
    enclosed_enclose singleQuotes s next
  have national : enclosed nationalQuotes (nationalQuotes.enclose s.toList ++ rest) = some (s, rest) :=
    enclosed_enclose nationalQuotes s next
  unfold Dialect.quoteString Dialect.stringDelimiters
  split
  · have name : enclosed d.nameDelimiters (nationalQuotes.enclose s.toList ++ rest) = none := by
      cases d <;> rfl
    have plain : enclosed singleQuotes (nationalQuotes.enclose s.toList ++ rest) = none := rfl
    rw [first, scanners, List.findSome?_cons, List.findSome?_cons, List.findSome?_cons]
    simp only [Scanner.as, name, plain, national, Option.map_none, Option.map_some]
  · have name : enclosed d.nameDelimiters (singleQuotes.enclose s.toList ++ rest) = none := by
      cases d <;> rfl
    rw [first, scanners, List.findSome?_cons, List.findSome?_cons]
    simp only [Scanner.as, name, single, Option.map_none, Option.map_some]

theorem unquoted_of_wordChar {c : Char} (inside : wordChar c = true) : c ∉ quotes := by
  intro member
  simp only [quotes, List.mem_cons, List.not_mem_nil, or_false] at member
  rcases member with rfl | rfl | rfl | rfl <;> exact absurd inside (by decide)

theorem toList_toString_cons (n : Int) :
    ∃ c cs, (toString n).toList = c :: cs ∧ (c = '-' ∨ c.isDigit = true) := by
  rw [Decimal.toList_toString]
  split
  · obtain ⟨c, cs, shape, digit⟩ := toDigits_eq_cons n.toNat
    exact ⟨c, cs, shape, .inr digit⟩
  · exact ⟨'-', _, rfl, .inl rfl⟩

theorem first_int (n : Int) {rest : List Char} (stop : Stop rest) :
    first d asked ((toString n).toList ++ rest) = some (.int n, rest) := by
  have read := integer_toString n stop
  obtain ⟨c, cs, shape, sign⟩ := toList_toString_cons n
  have unquoted : c ∉ quotes := by
    rcases sign with rfl | digit
    · decide
    · exact unquoted_of_wordChar (wordChar_of_isDigit digit)
  have ordinary : c = 'N' → (cs ++ rest).head? ≠ some '\'' := by
    rintro rfl
    exact absurd sign (by decide)
  rw [shape, List.cons_append] at read ⊢
  rw [first_unquoted unquoted ordinary, List.findSome?_cons]
  simp only [Scanner.as, read, Option.map_some]

theorem numbered_toDigits (lead : List Char) (n : Nat) {rest : List Char} (stop : Stop rest) :
    numbered lead (lead ++ Nat.toDigits 10 n ++ rest) = some (n, rest) := by
  have led := List.isPrefixOf?_eq_some_iff_append_eq.mpr
    (List.append_assoc lead (Nat.toDigits 10 n) rest).symm
  rw [numbered, led, Option.bind_some, numeral_toDigits n stop]

theorem placeholder_text (d : Dialect) (asked : Nat) {rest : List Char} (stop : Stop rest) :
    placeholder d asked (d.placeholder (asked + 1) ++ rest) = some (asked + 1, rest) := by
  cases d with
  | postgres => exact numbered_toDigits ['$'] (asked + 1) stop
  | tsql => exact numbered_toDigits ['@', 'p'] (asked + 1) stop
  | oracle => exact numbered_toDigits [':'] (asked + 1) stop
  | ansi | sqlite | mysql | duckdb => rfl

theorem first_param (d : Dialect) (asked : Nat) {rest : List Char} (stop : Stop rest) :
    first d asked (d.placeholder (asked + 1) ++ rest) = some (.param (asked + 1), rest) := by
  have read := placeholder_text d asked stop
  have lead : ∃ c cs, d.placeholder (asked + 1) ++ rest = c :: cs ∧ c ∉ quotes ∧ c ≠ 'N' ∧
      integer (c :: cs) = none := by
    cases d with
    | postgres => exact ⟨'$', _, rfl, by decide, by decide, rfl⟩
    | tsql => exact ⟨'@', _, rfl, by decide, by decide, rfl⟩
    | oracle => exact ⟨':', _, rfl, by decide, by decide, rfl⟩
    | ansi | sqlite | mysql | duckdb => exact ⟨'?', _, rfl, by decide, by decide, rfl⟩
  obtain ⟨c, cs, shape, unquoted, ordinary, unread⟩ := lead
  rw [shape] at read ⊢
  rw [first_unquoted unquoted fun n => absurd n ordinary, List.findSome?_cons, List.findSome?_cons]
  simp only [Scanner.as, unread, read, Option.map_none, Option.map_some]

def proper (w : List Char) : Bool := w.head?.any wordStart && w.all wordChar

theorem isDigit_of_wordStart {c : Char} (start : wordStart c = true) : c.isDigit = false := by
  cases digit : c.isDigit with
  | false => rfl
  | true =>
    simp only [Char.isDigit, Bool.and_eq_true, decide_eq_true_eq, ge_iff_le,
      UInt32.le_iff_toNat_le] at digit
    have letters : wordStart c = ((decide (65 ≤ c.val ∧ c.val ≤ 90)
        || (decide (97 ≤ c.val) && decide (c.val ≤ 122))) || c == '_') := rfl
    rw [letters] at start
    simp only [Bool.or_eq_true, beq_iff_eq, Bool.and_eq_true, decide_eq_true_eq,
      UInt32.le_iff_toNat_le] at start
    change 48 ≤ c.val.toNat ∧ c.val.toNat ≤ 57 at digit
    change ((65 ≤ c.val.toNat ∧ c.val.toNat ≤ 90) ∨ (97 ≤ c.val.toNat ∧ c.val.toNat ≤ 122)) ∨
      c = '_' at start
    rcases start with (upper | lower) | rfl
    · omega
    · omega
    · exact absurd digit (by decide)

theorem integer_word {c : Char} (start : wordStart c = true) (inside : wordChar c = true)
    (cs : List Char) : integer (c :: cs) = none := by
  have signless : c ≠ '-' := by
    rintro rfl
    exact absurd start (by decide)
  have digitless : c.isDigit = false := isDigit_of_wordStart start
  have unread : numeral (c :: cs) = none := by
    simp [numeral, inside, digitless]
  unfold integer
  split
  · rename_i same
    exact absurd (List.cons.inj same).1 signless
  · rw [unread]
    rfl

theorem placeholder_word {c : Char} (start : wordStart c = true) (d : Dialect) (asked : Nat)
    (cs : List Char) : placeholder d asked (c :: cs) = none := by
  have other (o : Char) (os : List Char) (mark : wordStart o = false) :
      (o :: os).isPrefixOf? (c :: cs) = none := by
    have apart : (o == c) = false := by
      simp only [beq_eq_false_iff_ne]
      rintro rfl
      exact absurd start (by simp [mark])
    simp [List.isPrefixOf?, apart]
  cases d with
  | postgres => simp [placeholder, numbered, other '$' [] rfl]
  | tsql => simp [placeholder, numbered, other '@' ['p'] rfl]
  | oracle => simp [placeholder, numbered, other ':' [] rfl]
  | ansi | sqlite | mysql | duckdb => simp [placeholder, other '?' [] rfl]

theorem first_word {w rest : List Char} (well : proper w = true) (stop : Stop rest) :
    first d asked (w ++ rest) = some (.word (String.ofList w), rest) := by
  cases w with
  | nil => exact absurd well (by decide)
  | cons c w =>
    simp only [proper, List.head?_cons, Option.any_some, Bool.and_eq_true] at well
    obtain ⟨start, inside⟩ := well
    obtain ⟨run, after⟩ := takeWhile_word inside stop
    have within : wordChar c = true := List.all_eq_true.mp inside c List.mem_cons_self
    -- a word that begins with N goes on with letters or stops, never with a quote
    have ordinary : c = 'N' → (w ++ rest).head? ≠ some '\'' := by
      rintro - quoted
      cases w with
      | nil => exact absurd (stop _ quoted) (by decide)
      | cons c' w =>
        have same : c' = '\'' := Option.some.inj quoted
        have := List.all_eq_true.mp inside c' (by simp)
        exact absurd this (by rw [same]; decide)
    have read : bareWord (c :: w ++ rest) = some (String.ofList (c :: w), rest) := by
      rw [bareWord, run, after]
      exact if_pos (by simpa using start)
    rw [List.cons_append] at read ⊢
    rw [first_unquoted (unquoted_of_wordChar within) ordinary, List.findSome?_cons,
      List.findSome?_cons, List.findSome?_cons]
    simp only [Scanner.as, integer_word start within, placeholder_word start, read,
      Option.map_none, Option.map_some]

theorem first_mark {c : Char} (begins : c ∈ [',', '.', '*', '(', ')', '=', '<', '>'])
    (cs : List Char) :
    first d asked (c :: cs) = (knownMark (c :: cs)).map fun r => (.mark r.1, r.2) := by
  have others : c ∉ quotes ∧ c ≠ 'N' ∧ integer (c :: cs) = none ∧
      placeholder d asked (c :: cs) = none ∧ bareWord (c :: cs) = none := by
    simp only [List.mem_cons, List.not_mem_nil, or_false] at begins
    rcases begins with rfl | rfl | rfl | rfl | rfl | rfl | rfl | rfl <;>
      exact ⟨by decide, by decide, rfl, by cases d <;> rfl, rfl⟩
  obtain ⟨unquoted, ordinary, unread, unasked, wordless⟩ := others
  rw [first_unquoted unquoted fun n => absurd n ordinary]
  simp only [List.findSome?_cons, List.findSome?_nil, Scanner.as, unread, unasked, wordless,
    Option.map_none]
  cases knownMark (c :: cs) <;> rfl

def closes : Symbol → Bool
  | .comma | .dot | .star | .lparen | .rparen => true
  | _ => false

theorem knownMark_symbol {s : Symbol} {rest : List Char} (visible : s ≠ .space)
    (apart : closes s = true ∨ Stop rest) :
    knownMark (s.text.toList ++ rest) = some (s.text, rest) := by
  rcases apart with closes | stop
  · cases s <;> first | rfl | exact absurd closes (by decide)
  · cases rest with
    | nil => cases s <;> first | rfl | exact absurd rfl visible
    | cons c rest =>
      have stops := stop c rfl
      simp only [List.mem_cons, List.not_mem_nil, or_false] at stops
      rcases stops with rfl | rfl | rfl | rfl | rfl | rfl | rfl <;>
        cases s <;> first | rfl | exact absurd rfl visible

theorem first_symbol {s : Symbol} {rest : List Char} (visible : s ≠ .space)
    (apart : closes s = true ∨ Stop rest) :
    first d asked (s.text.toList ++ rest) = some (.mark s.text, rest) := by
  have read := knownMark_symbol visible apart
  have lead : ∃ c cs, s.text.toList = c :: cs ∧ c ∈ [',', '.', '*', '(', ')', '=', '<', '>'] := by
    cases s <;> first | exact ⟨_, _, rfl, by decide⟩ | exact absurd rfl visible
  obtain ⟨c, cs, shape, begins⟩ := lead
  rw [shape, List.cons_append] at read ⊢
  rw [first_mark begins, read, Option.map_some]

end Lexeme
end Joinery.Sql
