import Joinery.Proofs.Sql.Lexeme
import Joinery.Proofs.Sql.Placeholder

/-!
Tokens are read as they were written. Each is read from its text alone if what follows
it cannot go on with it, which a delimiter never does. A list of tokens with delimiters
in all the places that need one is read token by token.
-/
namespace Joinery.Sql
open Lexeme

def Lexeme.phrase (text : List Char) : List Lexeme :=
  (text.splitBy fun a b => wordChar a == wordChar b).filterMap fun run =>
    if run.all blank then none
    else if run.all wordChar then some (.word (String.ofList run))
    else some (.mark (String.ofList run))

/-- What a token is to be read as. Names, literals and placeholders are one lexeme each;
    the fixed text of the others is split into its words, and spaces are dropped. -/
def Token.lexemes (d : Dialect) : Token → List Lexeme
  | .ident text => [.name text]
  | .string text => [.string text]
  | .int n => [.int n.toInt]
  | .param n => [.param n]
  | .symbol s => if s = .space then [] else [.mark s.text]
  | t => phrase (t.text d)

def Scans (d : Dialect) (asked : Nat) (cs : List Char) (ls : List Lexeme) : Prop :=
  ∀ fuel, cs.length < fuel → scanFrom d fuel asked cs = some ls

variable {d : Dialect} {asked : Nat} {rest : List Char} {ls : List Lexeme}

theorem scans_nil : Scans d asked [] [] := by
  intro fuel room
  obtain ⟨fuel, rfl⟩ := Nat.exists_eq_succ_of_ne_zero (Nat.ne_zero_of_lt room)
  rfl

theorem scans_blank {c : Char} (empty : blank c = true) (after : Scans d asked rest ls) :
    Scans d asked (c :: rest) ls := by
  intro fuel room
  obtain ⟨fuel, rfl⟩ := Nat.exists_eq_succ_of_ne_zero (Nat.ne_zero_of_lt room)
  rw [List.length_cons] at room
  rw [scanFrom, if_pos empty]
  exact after fuel (by omega)

theorem first_blank {c : Char} (empty : blank c = true) (cs : List Char) :
    first d asked (c :: cs) = none := by
  simp only [blank, Bool.or_eq_true, beq_iff_eq] at empty
  rcases empty with ((rfl | rfl) | rfl) | rfl <;> cases d <;> rfl

theorem scans_first {text : List Char} {l : Lexeme} (some_text : text ≠ [])
    (read : first d asked (text ++ rest) = some (l, rest))
    (after : Scans d (asked + l.asks) rest ls) : Scans d asked (text ++ rest) (l :: ls) := by
  intro fuel room
  obtain ⟨fuel, rfl⟩ := Nat.exists_eq_succ_of_ne_zero (Nat.ne_zero_of_lt room)
  obtain ⟨c, text, rfl⟩ := List.exists_cons_of_ne_nil some_text
  rw [List.cons_append] at read room ⊢
  rw [List.length_cons, List.length_append] at room
  have visible : ¬ blank c = true := by
    intro empty
    rw [first_blank empty] at read
    exact absurd read (by simp)
  rw [scanFrom, if_neg visible, read, Option.bind_some, after fuel (by omega), Option.map_some]

theorem scans_words {ws : List (List Char)} (some_word : ws ≠ [])
    (well : ∀ w ∈ ws, proper w = true) (stop : Stop rest) (after : Scans d asked rest ls) :
    Scans d asked ([' '].intercalate ws ++ rest)
      (ws.map (fun w => .word (String.ofList w)) ++ ls) := by
  induction ws with
  | nil => exact absurd rfl some_word
  | cons w ws ih =>
    have own := well w List.mem_cons_self
    have letters : w ≠ [] := by
      rintro rfl
      exact absurd own (by decide)
    -- a word ends at the space before the next, and the last one where the text stops
    cases ws with
    | nil =>
      rw [List.intercalate_singleton]
      exact scans_first letters (first_word own stop) after
    | cons w' ws =>
      have others := ih (by simp) fun v member => well v (List.mem_cons_of_mem w member)
      have space : Stop (' ' :: ([' '].intercalate (w' :: ws) ++ rest)) := by
        intro c head
        have : ' ' = c := Option.some.inj head
        exact this ▸ by decide
      rw [List.intercalate_cons_cons, List.append_assoc, List.append_assoc]
      exact scans_first letters (first_word own space) (scans_blank rfl others)

def worded (text : List Char) : Bool :=
  (text.splitOn ' ').all proper &&
    phrase text == (text.splitOn ' ').map fun w => .word (String.ofList w)

theorem scans_worded {text : List Char} (well : worded text = true) (stop : Stop rest)
    (after : Scans d asked rest ls) : Scans d asked (text ++ rest) (phrase text ++ ls) := by
  simp only [worded, Bool.and_eq_true, List.all_eq_true, beq_iff_eq] at well
  have read := scans_words (List.splitOn_ne_nil _ _) well.1 stop after
  rwa [List.intercalate_splitOn, ← well.2] at read

theorem scans_scoped {a b : List Char} (first_proper : proper a = true)
    (second_proper : proper b = true) (stop : Stop rest) (after : Scans d asked rest ls) :
    Scans d asked (a ++ [':', ':'] ++ b ++ rest)
      (.word (String.ofList a) :: .mark "::" :: .word (String.ofList b) :: ls) := by
  have letters {w : List Char} (own : proper w = true) : w ≠ [] := by
    rintro rfl
    exact absurd own (by decide)
  have colons : Stop ([':', ':'] ++ (b ++ rest)) := by
    intro c head
    have : ':' = c := Option.some.inj head
    exact this ▸ by decide
  have scope : first d asked ([':', ':'] ++ (b ++ rest)) = some (.mark "::", b ++ rest) := by
    cases d <;> rfl
  rw [List.append_assoc, List.append_assoc]
  apply scans_first (letters first_proper) (first_word first_proper colons)
  apply scans_first (by simp) scope
  exact scans_first (letters second_proper) (first_word second_proper stop) after

def delimits : Token → Bool
  | .symbol s => closes s || s == .space
  | _ => false

def known : Token → Bool
  | .function f => f == "ST_Within" || f == "ST_GeomFromText" || f == "SDO_INSIDE" || f == "SDO_GEOMETRY"
  | .raw sql => sql == "STWithin" || sql == "geometry::STGeomFromText"
  | _ => true

theorem Lexeme.Stop.ne {c : Char} (stop : Stop rest)
    (goes_on : c ∉ [',', '.', '*', '(', ')', ' ', ':']) : rest.head? ≠ some c :=
  fun head => goes_on (stop c head)

theorem placeholder_ne_nil (d : Dialect) (k : Nat) : d.placeholder k ≠ [] := by
  cases d <;> simp [Dialect.placeholder]

theorem scans_token {t : Token} (familiar : known t = true)
    (apart : delimits t = true ∨ Stop rest) (next : ∀ k, t = .param k → k = asked + 1)
    (after : Scans d (asked + (placeholders [t]).length) rest ls) :
    Scans d asked (t.text d ++ rest) (t.lexemes d ++ ls) := by
  -- only a symbol closes itself; all other words need the stop that follows them
  cases t with
  | symbol s =>
    by_cases space : s = .space
    · subst space
      exact scans_blank rfl after
    · have ends : closes s = true ∨ Stop rest := by
        simpa [delimits, space] using apart
      have lexemes : Token.lexemes d (.symbol s) = [.mark s.text] := by simp [Token.lexemes, space]
      have some_text : s.text.toList ≠ [] := by cases s <;> decide
      rw [lexemes]
      exact scans_first some_text (first_symbol space ends) after
  | ident text =>
    have stop := apart.resolve_left Bool.false_ne_true
    have some_text : d.quoteIdentifier text ≠ [] := by
      simp [Dialect.quoteIdentifier, Delimiters.enclose]
    have closed := stop.ne (c := d.nameDelimiters.closing) (by cases d <;> decide)
    exact scans_first some_text (first_name text closed) after
  | string text =>
    have stop := apart.resolve_left Bool.false_ne_true
    have some_text : d.quoteString text ≠ [] := by
      simp [Dialect.quoteString, Delimiters.enclose]
    exact scans_first some_text (first_string text (stop.ne (by decide))) after
  | int n =>
    have stop := apart.resolve_left Bool.false_ne_true
    obtain ⟨c, cs, shape, -⟩ := toList_toString_cons n.toInt
    have some_text : (toString n.toInt).toList ≠ [] := by
      rw [shape]
      exact List.cons_ne_nil c cs
    exact scans_first some_text (first_int n.toInt stop) after
  | param k =>
    have stop := apart.resolve_left Bool.false_ne_true
    obtain rfl := next k rfl
    exact scans_first (placeholder_ne_nil d _) (first_param d asked stop) after
  | keyword k =>
    have stop := apart.resolve_left Bool.false_ne_true
    have well : worded k.text.toList = true := by cases k <;> decide +kernel
    exact scans_worded well stop after
  | fullOuterJoin =>
    have stop := apart.resolve_left Bool.false_ne_true
    have well : worded (Token.fullOuterJoin.text d) = true := by cases d <;> decide +kernel
    exact scans_worded well stop after
  | function f =>
    have stop := apart.resolve_left Bool.false_ne_true
    have well : worded (Text.upper f).toList = true := by
      simp only [known, Bool.or_eq_true, beq_iff_eq] at familiar
      rcases familiar with ((rfl | rfl) | rfl) | rfl <;> decide +kernel
    exact scans_worded well stop after
  | raw sql =>
    have stop := apart.resolve_left Bool.false_ne_true
    simp only [known, Bool.or_eq_true, beq_iff_eq] at familiar
    rcases familiar with rfl | rfl
    · have well : worded "STWithin".toList = true := by decide +kernel
      exact scans_worded well stop after
    · exact scans_scoped (a := "geometry".toList) (b := "STGeomFromText".toList) (by decide)
        (by decide) stop after

def opens (ts : List Token) : Bool := ts.head?.all delimits

/-- Known words, and of two that follow each other one is a delimiting symbol. -/
def spaced : List Token → Bool
  | [] => true
  | t :: rest => known t && (delimits t || opens rest) && spaced rest

theorem stop_of_opens {ts : List Token} (open_list : opens ts = true) (d : Dialect) :
    Stop (ts.flatMap (Token.text d)) := by
  cases ts with
  | nil =>
    intro c head
    cases head
  | cons t rest =>
    have delimiter : delimits t = true := open_list
    cases t with
    | symbol s =>
      intro c head
      cases s <;> first
        | exact absurd delimiter (by decide)
        | (cases (Option.some.inj head); decide)
    | _ => exact absurd delimiter Bool.false_ne_true

theorem range_split {a b : List Nat} {n : Nat}
    (counted : a ++ b = List.range' (n + 1) (a.length + b.length)) :
    a = List.range' (n + 1) a.length ∧ b = List.range' (n + a.length + 1) b.length := by
  have shift : n + 1 + 1 * a.length = n + a.length + 1 := by omega
  rw [← List.range'_append, shift] at counted
  exact List.append_inj counted (by rw [List.length_range'])

theorem scans_spaced {ts : List Token} (well : spaced ts = true)
    (counted : placeholders ts = List.range' (asked + 1) (placeholders ts).length) :
    Scans d asked (ts.flatMap (Token.text d)) (ts.flatMap (Token.lexemes d)) := by
  induction ts generalizing asked with
  | nil => exact scans_nil
  | cons t rest ih =>
    simp only [spaced, Bool.and_eq_true, Bool.or_eq_true] at well
    obtain ⟨⟨familiar, apart⟩, others⟩ := well
    have split : placeholders (t :: rest) = placeholders [t] ++ placeholders rest :=
      placeholders_append [t] rest
    have ends : delimits t = true ∨ Stop (rest.flatMap (Token.text d)) :=
      apart.imp_right fun open_list => stop_of_opens open_list d
    rw [split, List.length_append] at counted
    -- a placeholder without a number is read as the next one, so the order matters
    obtain ⟨own, later⟩ := range_split counted
    have next : ∀ k, t = .param k → k = asked + 1 := by
      rintro k rfl
      have : [k] = [asked + 1] := own
      exact List.head_eq_of_cons_eq this
    exact scans_token familiar ends next (ih others later)

end Joinery.Sql
