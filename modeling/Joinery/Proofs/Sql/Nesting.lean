import Joinery.Proofs.Sql.Reader

/-!
How deep in parentheses the words of a statement stand. Words that close all that they
open, and nothing else, may stand anywhere without a change to what is around them.
-/
namespace Joinery.Sql

/-- How deep in parentheses a word leaves what follows it. Nothing closes what has not
    been opened. -/
def Token.level (depth : Nat) : Token → Option Nat
  | .symbol .lparen => some (depth + 1)
  | .symbol .rparen => if depth = 0 then none else some (depth - 1)
  | _ => some depth

def level (depth : Nat) (ts : List Token) : Option Nat := ts.foldlM Token.level depth

def Balanced (ts : List Token) : Prop := level 0 ts = some 0

def enclose (ts : List Token) : List Token := Token.lparen :: (ts ++ [Token.rparen])

def flat : Token → Bool
  | .symbol .lparen | .symbol .rparen => false
  | _ => true

def connective? : Token → Option Connective
  | .keyword .and => some .and
  | .keyword .or => some .or
  | _ => none

def silent (t : Token) : Bool := flat t && (connective? t).isNone

/-- The connectives that stand in no parentheses, from left to right. -/
def surface : Nat → List Token → List Connective
  | _, [] => []
  | depth, t :: rest =>
    (if depth = 0 then (connective? t).toList else []) ++ surface ((t.level depth).getD depth) rest

theorem level_cons (depth : Nat) (t : Token) (ts : List Token) :
    level depth (t :: ts) = (t.level depth).bind fun depth => level depth ts := rfl

theorem level_append (depth : Nat) (ts us : List Token) :
    level depth (ts ++ us) = (level depth ts).bind fun depth => level depth us :=
  List.foldlM_append ..

theorem level_flat {t : Token} (word : flat t = true) (depth : Nat) : t.level depth = some depth := by
  unfold Token.level
  split
  · cases word
  · cases word
  · rfl

theorem token_level_add {t : Token} {k m : Nat} (j : Nat) (found : t.level k = some m) :
    t.level (k + j) = some (m + j) := by
  unfold Token.level at found ⊢
  split at found
  · cases found
    exact congrArg some (Nat.add_right_comm k j 1)
  · split at found
    · cases found
    · cases found
      rw [if_neg (by omega)]
      exact congrArg some (by omega)
  · cases found
    rfl

theorem level_add {ts : List Token} {k m : Nat} (j : Nat) (found : level k ts = some m) :
    level (k + j) ts = some (m + j) := by
  induction ts generalizing k with
  | nil =>
    cases found
    rfl
  | cons t ts ih =>
    rw [level_cons] at found ⊢
    obtain ⟨next, first, others⟩ := Option.bind_eq_some_iff.mp found
    rw [token_level_add j first]
    exact ih others

theorem Balanced.level {ts : List Token} (balanced : Balanced ts) (k : Nat) :
    level k ts = some k := by
  have deeper := level_add k balanced
  rwa [Nat.zero_add] at deeper

theorem balanced_append {ts us : List Token} (first : Balanced ts) (second : Balanced us) :
    Balanced (ts ++ us) := by
  rw [Balanced, level_append, first.level]
  exact second

theorem balanced_around {lead ts tail : List Token} {depth : Nat} (opens : level 0 lead = some depth)
    (inside : Balanced ts) (closes : level depth tail = some 0) : Balanced (lead ++ ts ++ tail) := by
  rw [Balanced, level_append, level_append, opens, Option.bind_some, inside.level]
  exact closes

theorem balanced_enclose {ts : List Token} (inside : Balanced ts) : Balanced (enclose ts) := by
  have opens : level 0 [Token.lparen] = some 1 := rfl
  exact balanced_around opens inside rfl

theorem words_cons (t : Token) (ts : List Token) :
    t = Token.space ∧ words (t :: ts) = words ts ∨ words (t :: ts) = t :: words ts := by
  by_cases space : isSpace t = true
  · have blank : t = Token.space := by
      unfold isSpace at space
      split at space
      · rfl
      · cases space
    subst blank
    exact .inl ⟨rfl, rfl⟩
  · exact .inr (by simp [words, space])

theorem level_words (depth : Nat) (ts : List Token) : level depth (words ts) = level depth ts := by
  induction ts generalizing depth with
  | nil => rfl
  | cons t ts ih =>
    obtain ⟨rfl, skipped⟩ | kept := words_cons t ts
    · rw [skipped]
      exact ih depth
    · rw [kept, level_cons, level_cons]
      exact congrArg _ (funext ih)

theorem surface_words (depth : Nat) (ts : List Token) :
    surface depth (words ts) = surface depth ts := by
  induction ts generalizing depth with
  | nil => rfl
  | cons t ts ih =>
    obtain ⟨rfl, skipped⟩ | kept := words_cons t ts
    · have nothing : surface depth (Token.space :: ts) = surface depth ts := by
        rw [surface]
        exact (congrArg (· ++ surface depth ts) (ite_self [])).trans rfl
      rw [skipped, ih, nothing]
    · rw [kept, surface, surface, ih]

theorem surface_append {ts us : List Token} {k m : Nat} (found : level k ts = some m) :
    surface k (ts ++ us) = surface k ts ++ surface m us := by
  induction ts generalizing k with
  | nil =>
    cases found
    rfl
  | cons t ts ih =>
    rw [level_cons] at found
    obtain ⟨next, first, others⟩ := Option.bind_eq_some_iff.mp found
    rw [List.cons_append, surface, surface, first, Option.getD_some, ih others, List.append_assoc]

theorem surface_deep {ts : List Token} {k m : Nat} (found : level k ts = some m) :
    surface (k + 1) ts = [] := by
  induction ts generalizing k with
  | nil => rfl
  | cons t ts ih =>
    rw [level_cons] at found
    obtain ⟨next, first, others⟩ := Option.bind_eq_some_iff.mp found
    rw [surface, token_level_add 1 first, Option.getD_some, ih others, if_neg (Nat.succ_ne_zero k)]
    rfl

theorem surface_enclose {ts : List Token} (inside : Balanced ts) : surface 0 (enclose ts) = [] := by
  have deep : surface 1 (ts ++ [Token.rparen]) = [] := by
    rw [surface_append (inside.level 1), surface_deep inside]
    rfl
  exact deep

/-- Balanced words that have these connectives outside of all parentheses. -/
structure Shows (ks : List Connective) (ts : List Token) : Prop where
  balanced : Balanced ts
  surface : surface 0 ts = ks

theorem shows_append {ks ks' : List Connective} {ts us : List Token} (first : Shows ks ts)
    (second : Shows ks' us) : Shows (ks ++ ks') (ts ++ us) where
  balanced := balanced_append first.balanced second.balanced
  surface := by rw [surface_append first.balanced, first.surface, second.surface]

theorem shows_word {t : Token} (word : flat t = true) : Shows (connective? t).toList [t] where
  balanced := by
    rw [Balanced, level_cons, level_flat word]
    rfl
  surface := by
    rw [surface, if_pos rfl]
    exact List.append_nil _

theorem shows_enclose {ts : List Token} (inside : Balanced ts) : Shows [] (enclose ts) :=
  ⟨balanced_enclose inside, surface_enclose inside⟩

theorem shows_silent {ts : List Token} (words : ts.all silent = true) : Shows [] ts := by
  induction ts with
  | nil => exact ⟨rfl, rfl⟩
  | cons t ts ih =>
    rw [List.all_cons, Bool.and_eq_true, silent, Bool.and_eq_true, Option.isNone_iff_eq_none] at words
    obtain ⟨⟨word, none⟩, others⟩ := words
    have own := shows_word word
    rw [none] at own
    exact shows_append own (ih others)

theorem shows_flatMap {α : Type} {k : α → List Connective} {f : α → List Token} {xs : List α}
    (each : ∀ x ∈ xs, Shows (k x) (f x)) : Shows (xs.flatMap k) (xs.flatMap f) := by
  induction xs with
  | nil => exact ⟨rfl, rfl⟩
  | cons x xs ih =>
    rw [List.flatMap_cons, List.flatMap_cons]
    exact shows_append (each x List.mem_cons_self)
      (ih fun y later => each y (List.mem_cons_of_mem x later))

theorem shows_words {ks : List Connective} {ts : List Token} (shows : Shows ks (words ts)) :
    Shows ks ts where
  balanced := by
    rw [Balanced, ← level_words]
    exact shows.balanced
  surface := by rw [← surface_words, shows.surface]

end Joinery.Sql
