import Joinery.Config.Template
import Joinery.Proofs.Text.Blank

/-!
Texts with references, piece by piece. A text is written from pieces in one way, or a brace
that is opened in it is never closed. What a text becomes is told by its pieces alone: a
reference stands for its value as it is, and the first one without a value is what is
complained of.
-/
namespace Joinery.Template

inductive Piece where
  | literal (text : List Char)
  | dollar
  | braced (name : List Char)
  | bare (name : List Char)
deriving DecidableEq, Repr

namespace Piece

def written : Piece → List Char
  | .literal text => text
  | .dollar => ['$']
  | .braced name => '$' :: '\x7b' :: (name ++ ['\x7d'])
  | .bare name => '$' :: name

/-- Whether a piece is well formed and ends where it is meant to, if `rest` follows it. -/
def Fits : Piece → List Char → Prop
  | .literal text, _ => text ≠ [] ∧ '$' ∉ text
  | .dollar, rest => ∀ c ∈ rest.head?, c ≠ '\x7b' ∧ isNameCharacter c = false
  | .braced name, _ => '\x7d' ∉ name
  | .bare name, rest =>
    name ≠ [] ∧ (∀ c ∈ name, isNameCharacter c = true) ∧
      ∀ c ∈ rest.head?, isNameCharacter c = false

-- The quantifiers are decided over the text: over all characters they could be as well.
instance decidableFits : (p : Piece) → (rest : List Char) → Decidable (p.Fits rest)
  | .literal _, _ => inferInstanceAs (Decidable (_ ∧ _))
  | .dollar, rest => Option.decidableForallMem rest.head?
  | .braced name, _ => inferInstanceAs (Decidable ('\x7d' ∉ name))
  | .bare name, rest =>
    have := List.decidableBAll (fun c => isNameCharacter c = true) name
    have := Option.decidableForallMem (p := fun c => isNameCharacter c = false) rest.head?
    inferInstanceAs (Decidable (_ ∧ _ ∧ _))

/-- The pieces of single characters that a literal could as well be written from. -/
def split : Piece → List Piece
  | .literal text => text.map fun c => .literal [c]
  | p => [p]

def segments : Piece → List Segment
  | .literal text => text.map .character
  | .dollar => [.character '$']
  | .braced name | .bare name => [.reference name]

def name? : Piece → Option (List Char)
  | .literal _ | .dollar => none
  | .braced name | .bare name => some name

def unset? (env : Environment) (p : Piece) : Option (List Char) :=
  p.name?.filter fun name => (env.get? (String.ofList name)).isNone

def replaced (env : Environment) (p : Piece) : List Char :=
  match p.name? with
  | none => p.written
  | some name => ((env.get? (String.ofList name)).getD "").toList

end Piece

def written (pieces : List Piece) : List Char := pieces.flatMap Piece.written

/-- Every piece is followed by what shows where it ends. -/
def Canonical : List Piece → Prop
  | [] => True
  | p :: rest => p.Fits (written rest) ∧ Canonical rest

instance decidableCanonical : (pieces : List Piece) → Decidable (Canonical pieces)
  | [] => isTrue trivial
  | p :: rest =>
    have := decidableCanonical rest
    inferInstanceAs (Decidable (p.Fits (written rest) ∧ Canonical rest))

def split (pieces : List Piece) : List Piece := pieces.flatMap Piece.split

def replaced (env : Environment) (pieces : List Piece) : List Char :=
  pieces.flatMap (Piece.replaced env)

def settled (env : Environment) (pieces : List Piece) (said : Except SettingsError String) :
    Except SettingsError String :=
  match pieces.findSome? (Piece.unset? env) with
  | some name => .error (.variableMissing (String.ofList name))
  | none => said

@[simp] theorem written_cons (p : Piece) (rest : List Piece) :
    written (p :: rest) = p.written ++ written rest := rfl

theorem isNameCharacter_dollar : isNameCharacter '$' = false := by decide +kernel

theorem isNameCharacter_brace : isNameCharacter '\x7b' = false := by decide +kernel

theorem inside_brace {s : List Char} (unclosed : '\x7d' ∉ s) : ∀ c ∈ s, (c != '\x7d') = true := by
  intro c member
  rw [bne_iff_ne]
  exact ne_of_mem_of_not_mem member unclosed

theorem ne_brace_cons {s : List Char} (unbraced : ∀ c ∈ s.head?, c ≠ '\x7b') (after : List Char) :
    s ≠ '\x7b' :: after := by
  rintro rfl
  exact unbraced '\x7b' rfl rfl

theorem run_to_brace {name : List Char} (unclosed : '\x7d' ∉ name) (rest : List Char) :
    (name ++ '\x7d' :: rest).takeWhile (· != '\x7d') = name ∧
      (name ++ '\x7d' :: rest).dropWhile (· != '\x7d') = '\x7d' :: rest := by
  apply Text.run_of_all (inside_brace unclosed)
  simp

theorem parse_unclosed {rest : List Char} (unclosed : '\x7d' ∉ rest) :
    parse ('$' :: '\x7b' :: rest) = ([], false) := by
  have nothing := List.dropWhile_eq_nil_iff.mpr (inside_brace unclosed)
  rw [parse]
  split
  · rfl
  · rename_i closed
    rw [nothing] at closed
    cases closed

theorem parse_braced {name : List Char} (unclosed : '\x7d' ∉ name) (rest : List Char) :
    parse ('$' :: '\x7b' :: (name ++ '\x7d' :: rest)) =
      (.reference name :: (parse rest).1, (parse rest).2) := by
  obtain ⟨taken, dropped⟩ := run_to_brace unclosed rest
  rw [parse]
  split
  · rename_i nothing
    rw [dropped] at nothing
    cases nothing
  · rename_i closed
    rw [dropped] at closed
    cases closed
    rw [taken]

theorem parse_dollar {name rest : List Char} (inside : ∀ c ∈ name, isNameCharacter c = true)
    (stop : ∀ c ∈ rest.head?, isNameCharacter c = false)
    (unbraced : ∀ c ∈ (name ++ rest).head?, c ≠ '\x7b') :
    parse ('$' :: (name ++ rest)) =
      ((if name.isEmpty then .character '$' else .reference name) :: (parse rest).1,
        (parse rest).2) := by
  obtain ⟨taken, dropped⟩ := Text.run_of_all inside stop
  rw [parse.eq_3 _ (ne_brace_cons unbraced), taken, dropped]
  cases name <;> rfl

theorem parse_literal {text : List Char} (plain : '$' ∉ text) (rest : List Char) :
    parse (text ++ rest) = (text.map .character ++ (parse rest).1, (parse rest).2) := by
  induction text with
  | nil => rfl
  | cons c text ih =>
    rw [List.mem_cons, not_or] at plain
    have other : c = '$' → False := fun same => plain.1 same.symm
    rw [List.cons_append, parse.eq_4 c _ (fun _ same => absurd same other) other, ih plain.2]
    rfl

theorem name_unbraced {name : List Char} (some_name : name ≠ [])
    (inside : ∀ c ∈ name, isNameCharacter c = true) (rest : List Char) :
    ∀ c ∈ (name ++ rest).head?, c ≠ '\x7b' := by
  obtain ⟨c, cs, rfl⟩ := List.exists_cons_of_ne_nil some_name
  intro d head
  cases head
  rintro rfl
  have brace := inside '\x7b' List.mem_cons_self
  rw [isNameCharacter_brace] at brace
  cases brace

theorem written_braced (name rest : List Char) :
    (Piece.braced name).written ++ rest = '$' :: '\x7b' :: (name ++ '\x7d' :: rest) := by
  simp [Piece.written]

theorem parse_piece {p : Piece} {rest : List Char} (fits : p.Fits rest) :
    parse (p.written ++ rest) = (p.segments ++ (parse rest).1, (parse rest).2) := by
  cases p with
  | literal text => exact parse_literal fits.2 rest
  | dollar =>
    refine @parse_dollar [] rest ?_ (fun c head => (fits c head).2) fun c head => (fits c head).1
    intro c member
    cases member
  | braced name =>
    rw [written_braced]
    exact parse_braced fits rest
  | bare name =>
    obtain ⟨some_name, inside, stop⟩ := fits
    have read := parse_dollar inside stop (name_unbraced some_name inside rest)
    rw [if_neg (by simpa using some_name)] at read
    exact read

theorem Piece.Fits.append {p : Piece} {rest tail : List Char} (fits : p.Fits rest)
    (opens : ∀ c ∈ tail.head?, c = '$') : p.Fits (rest ++ tail) := by
  have following : ∀ q : Char → Prop, (∀ c ∈ rest.head?, q c) → q '$' →
      ∀ c ∈ (rest ++ tail).head?, q c := by
    intro q kept dollar c head
    cases rest with
    | nil =>
      rw [opens c head]
      exact dollar
    | cons d rest => exact kept c head
  cases p with
  | literal | braced => exact fits
  | dollar => exact following _ fits ⟨by decide, isNameCharacter_dollar⟩
  | bare => exact ⟨fits.1, fits.2.1, following _ fits.2.2 isNameCharacter_dollar⟩

theorem parse_written {pieces : List Piece} (canonical : Canonical pieces) {tail : List Char}
    (opens : ∀ c ∈ tail.head?, c = '$') :
    parse (written pieces ++ tail) =
      (pieces.flatMap Piece.segments ++ (parse tail).1, (parse tail).2) := by
  -- a piece is read back when it fits before what follows, written or not
  induction pieces with
  | nil => rfl
  | cons p rest ih =>
    rw [written_cons, List.append_assoc, parse_piece (canonical.1.append opens), ih canonical.2,
      List.flatMap_cons, List.append_assoc]

theorem resolve_literal (env : Environment) (text : List Char) (rest : List Segment) :
    resolve env (text.map .character ++ rest) = (resolve env rest).map (text ++ ·) := by
  induction text with
  | nil => cases h : resolve env rest <;> simp [h, Except.map]
  | cons c text ih =>
    rw [List.map_cons, List.cons_append, resolve, ih]
    cases resolve env rest <;> rfl

theorem resolve_piece (env : Environment) (p : Piece) (rest : List Segment) :
    resolve env (p.segments ++ rest) =
      match p.unset? env with
      | some name => .error (.variableMissing (String.ofList name))
      | none => (resolve env rest).map (p.replaced env ++ ·) := by
  cases p with
  | literal text => exact resolve_literal env text rest
  | dollar => exact resolve_literal env ['$'] rest
  | braced name | bare name =>
    rw [Piece.segments, List.singleton_append, resolve]
    simp only [Piece.unset?, Piece.replaced, Piece.name?, Option.filter_some]
    cases env.get? (String.ofList name) <;> rfl

theorem resolve_pieces (env : Environment) (pieces : List Piece) :
    resolve env (pieces.flatMap Piece.segments) =
      match pieces.findSome? (Piece.unset? env) with
      | some name => .error (.variableMissing (String.ofList name))
      | none => .ok (replaced env pieces) := by
  induction pieces with
  | nil => rfl
  | cons p rest ih =>
    rw [List.flatMap_cons, resolve_piece, List.findSome?_cons, ih]
    cases p.unset? env with
    | some name => rfl
    | none => cases rest.findSome? (Piece.unset? env) <;> rfl

theorem expand_written (env : Environment) {pieces : List Piece} (canonical : Canonical pieces)
    {tail : List Char} (opens : ∀ c ∈ tail.head?, c = '$') {closed : Bool}
    (ends : parse tail = ([], closed)) :
    expand env (String.ofList (written pieces ++ tail)) =
      settled env pieces
        (if closed then .ok (String.ofList (replaced env pieces))
        else .error (.unterminatedReference (String.ofList (written pieces ++ tail)))) := by
  rw [expand, String.toList_ofList, parse_written canonical opens, ends, List.append_nil]
  simp only [resolve_pieces, settled]
  cases pieces.findSome? (Piece.unset? env) <;> rfl

def Composed (s : List Char) : Prop := ∃ pieces, Canonical pieces ∧ written pieces = s

def Unclosed (s : List Char) : Prop :=
  ∃ pieces rest, Canonical pieces ∧ '\x7d' ∉ rest ∧ written pieces ++ '$' :: '\x7b' :: rest = s

theorem Piece.Fits.of_append {p : Piece} {rest tail : List Char} (fits : p.Fits (rest ++ tail)) :
    p.Fits rest := by
  have earlier : ∀ c ∈ rest.head?, c ∈ (rest ++ tail).head? := by
    intro c head
    rw [List.head?_append, head]
    rfl
  cases p with
  | literal | braced => exact fits
  | dollar => exact fun c head => fits c (earlier c head)
  | bare => exact ⟨fits.1, fits.2.1, fun c head => fits.2.2 c (earlier c head)⟩

theorem composed_or_unclosed_cons {p : Piece} {rest : List Char} (fits : p.Fits rest)
    (known : Composed rest ∨ Unclosed rest) :
    Composed (p.written ++ rest) ∨ Unclosed (p.written ++ rest) := by
  rcases known with ⟨pieces, canonical, rfl⟩ | ⟨pieces, tail, canonical, unclosed, rfl⟩
  · exact .inl ⟨p :: pieces, ⟨fits, canonical⟩, rfl⟩
  · refine .inr ⟨p :: pieces, tail, ⟨fits.of_append, canonical⟩, unclosed, ?_⟩
    rw [written_cons, List.append_assoc]

theorem composed_or_unclosed (s : List Char) : Composed s ∨ Unclosed s := by
  -- the cases of the parser: a text ends, a brace stays open, or one piece is read
  induction s using parse.induct with
  | case1 => exact .inl ⟨[], trivial, rfl⟩
  | case2 rest nothing =>
    refine .inr ⟨[], rest, trivial, ?_, rfl⟩
    intro member
    have := List.dropWhile_eq_nil_iff.mp nothing '\x7d' member
    simp at this
  | case3 rest head after closed _ _ _ _ ih =>
    have brace : head = '\x7d' := by
      have := Text.head_dropWhile (p := (· != '\x7d')) rest head (by rw [closed]; rfl)
      simpa using this
    have fits : (Piece.braced (rest.takeWhile (· != '\x7d'))).Fits after := by
      intro member
      have := List.mem_takeWhile_imp member
      simp at this
    have whole : rest.takeWhile (· != '\x7d') ++ '\x7d' :: after = rest := by
      subst brace
      rw [← closed, List.takeWhile_append_dropWhile]
    have known := composed_or_unclosed_cons fits ih
    simp only [Piece.written, List.cons_append, List.append_assoc, List.nil_append, whole] at known
    exact known
  | case4 rest unbraced _ _ _ _ ih =>
    have whole := List.takeWhile_append_dropWhile (p := isNameCharacter) (l := rest)
    have stop := Text.head_dropWhile (p := isNameCharacter) rest
    cases name : rest.takeWhile isNameCharacter with
    | nil =>
      rw [name, List.nil_append] at whole
      rw [whole] at stop ih
      have fits : Piece.dollar.Fits rest := by
        intro c head
        refine ⟨?_, stop c head⟩
        rintro rfl
        obtain ⟨after, shape⟩ := List.head?_eq_some_iff.mp head
        exact unbraced after shape
      exact composed_or_unclosed_cons fits ih
    | cons c cs =>
      have fits : (Piece.bare (c :: cs)).Fits (rest.dropWhile isNameCharacter) := by
        refine ⟨List.cons_ne_nil c cs, ?_, stop⟩
        intro d member
        rw [← name] at member
        exact List.mem_takeWhile_imp member
      have known := composed_or_unclosed_cons fits ih
      rw [name] at whole
      rw [Piece.written, List.cons_append, whole] at known
      exact known
  | case5 c rest _ other _ _ _ ih =>
    have fits : (Piece.literal [c]).Fits rest := by
      refine ⟨List.cons_ne_nil c [], ?_⟩
      rw [List.mem_singleton]
      exact fun same => other same.symm
    exact composed_or_unclosed_cons fits ih

def first? : List Char → Option Piece
  | [] => none
  | '$' :: '\x7b' :: rest => some (.braced (rest.takeWhile (· != '\x7d')))
  | '$' :: rest =>
    let name := rest.takeWhile isNameCharacter
    some (if name.isEmpty then .dollar else .bare name)
  | c :: _ => some (.literal [c])

theorem first_dollar {name rest : List Char} (inside : ∀ c ∈ name, isNameCharacter c = true)
    (stop : ∀ c ∈ rest.head?, isNameCharacter c = false)
    (unbraced : ∀ c ∈ (name ++ rest).head?, c ≠ '\x7b') :
    first? ('$' :: (name ++ rest)) = some (if name.isEmpty then .dollar else .bare name) := by
  rw [first?.eq_3 _ (ne_brace_cons unbraced), (Text.run_of_all inside stop).1]

theorem first_written {p : Piece} (single : p.split = [p]) {rest : List Char}
    (fits : p.Fits rest) : first? (p.written ++ rest) = some p := by
  cases p with
  | literal text =>
    obtain ⟨c, rfl, -⟩ := List.map_eq_singleton_iff.mp single
    have other : c = '$' → False := by
      rintro rfl
      exact fits.2 (List.mem_singleton_self '$')
    exact first?.eq_4 c rest (fun _ same => absurd same other) other
  | dollar =>
    refine @first_dollar [] rest ?_ (fun c head => (fits c head).2) fun c head => (fits c head).1
    intro c member
    cases member
  | braced name => rw [written_braced, first?, (run_to_brace fits rest).1]
  | bare name =>
    obtain ⟨some_name, inside, stop⟩ := fits
    have read := first_dollar inside stop (name_unbraced some_name inside rest)
    rw [if_neg (by simpa using some_name)] at read
    exact read

theorem eq_of_written {pieces others : List Piece} (canonical : Canonical pieces)
    (canonical' : Canonical others) (single : ∀ p ∈ pieces, p.split = [p])
    (single' : ∀ p ∈ others, p.split = [p]) (same : written pieces = written others) :
    pieces = others := by
  -- the text fixes its first piece, and then the rest is the same text
  induction pieces generalizing others with
  | nil =>
    cases others with
    | nil => rfl
    | cons q others =>
      have first := first_written (single' q List.mem_cons_self) canonical'.1
      rw [← written_cons, ← same] at first
      cases first
  | cons p pieces ih =>
    have first := first_written (single p List.mem_cons_self) canonical.1
    cases others with
    | nil =>
      rw [← written_cons, same] at first
      cases first
    | cons q others =>
      have first' := first_written (single' q List.mem_cons_self) canonical'.1
      rw [← written_cons, ← same, written_cons, first] at first'
      cases first'
      rw [written_cons, written_cons, List.append_cancel_left_eq] at same
      rw [ih canonical.2 canonical'.2 (fun r member => single r (List.mem_cons_of_mem p member))
        (fun r member => single' r (List.mem_cons_of_mem p member)) same]

theorem split_split (p : Piece) : ∀ q ∈ p.split, q.split = [q] := by
  intro q member
  cases p with
  | literal text =>
    obtain ⟨c, -, rfl⟩ := List.mem_map.mp member
    rfl
  | dollar | braced | bare =>
    rw [List.mem_singleton.mp member]
    rfl

theorem written_literals (text : List Char) :
    written (text.map fun c => .literal [c]) = text := by
  induction text with
  | nil => rfl
  | cons c text ih => rw [List.map_cons, written_cons, ih]; rfl

theorem written_append (pieces others : List Piece) :
    written (pieces ++ others) = written pieces ++ written others := List.flatMap_append

theorem written_split (pieces : List Piece) : written (split pieces) = written pieces := by
  induction pieces with
  | nil => rfl
  | cons p rest ih =>
    have here : written p.split = p.written := by
      cases p with
      | literal text => exact written_literals text
      | dollar | braced | bare => exact List.append_nil _
    rw [split, List.flatMap_cons, written_append, here]
    exact congrArg (p.written ++ ·) ih

theorem canonical_literals {text : List Char} (plain : '$' ∉ text) {rest : List Piece}
    (canonical : Canonical rest) : Canonical ((text.map fun c => .literal [c]) ++ rest) := by
  induction text with
  | nil => exact canonical
  | cons c text ih =>
    rw [List.mem_cons, not_or] at plain
    exact ⟨⟨List.cons_ne_nil c [], fun member => plain.1 (List.mem_singleton.mp member)⟩, ih plain.2⟩

theorem canonical_split {pieces : List Piece} (canonical : Canonical pieces) :
    Canonical (split pieces) := by
  induction pieces with
  | nil => trivial
  | cons p rest ih =>
    obtain ⟨fits, canonical⟩ := canonical
    rw [split, List.flatMap_cons]
    cases p with
    | literal text => exact canonical_literals fits.2 (ih canonical)
    | dollar | braced | bare =>
      refine ⟨?_, ih canonical⟩
      rw [← written_split rest] at fits
      exact fits

theorem split_eq_of_written {pieces others : List Piece} (canonical : Canonical pieces)
    (canonical' : Canonical others) (same : written pieces = written others) :
    split pieces = split others := by
  have single : ∀ pieces : List Piece, ∀ p ∈ split pieces, p.split = [p] := by
    intro pieces p member
    obtain ⟨q, -, here⟩ := List.mem_flatMap.mp member
    exact split_split q p here
  apply eq_of_written (canonical_split canonical) (canonical_split canonical') (single _) (single _)
  rw [written_split, written_split, same]

/-- What a text becomes, the one way in which it is written from pieces, and what is said if
    that way is not found for want of a closing brace. -/
theorem expansion_by_pieces (env : Environment) :
    (∀ pieces, Canonical pieces →
      expand env (String.ofList (written pieces)) =
        settled env pieces (.ok (String.ofList (replaced env pieces)))) ∧
    (∀ pieces rest, Canonical pieces → '\x7d' ∉ rest →
      expand env (String.ofList (written pieces ++ '$' :: '\x7b' :: rest)) =
        settled env pieces (.error (.unterminatedReference
          (String.ofList (written pieces ++ '$' :: '\x7b' :: rest))))) ∧
    (∀ s, Xor (Composed s) (Unclosed s)) ∧
    ∀ pieces others, Canonical pieces → Canonical others → written pieces = written others →
      split pieces = split others := by
  have nothing : ∀ c ∈ ([] : List Char).head?, c = '$' := by simp
  have dollar : ∀ rest : List Char, ∀ c ∈ ('$' :: '\x7b' :: rest).head?, c = '$' := by simp
  refine ⟨?_, ?_, ?_, ?_⟩
  · intro pieces canonical
    have told := expand_written env canonical nothing parse.eq_1
    rw [List.append_nil] at told
    exact told
  · intro pieces rest canonical unclosed
    exact expand_written env canonical (dollar rest) (parse_unclosed unclosed)
  · intro s
    rw [xor_iff_or_and_not_and]
    refine ⟨composed_or_unclosed s, ?_⟩
    -- the parser says of a text whether its braces are closed, and it says one thing
    rintro ⟨⟨pieces, canonical, rfl⟩, ⟨front, rest, canonical', unclosed, same⟩⟩
    have closed := congrArg Prod.snd (parse_written canonical nothing)
    rw [List.append_nil, ← same, parse_written canonical' (dollar rest), parse_unclosed unclosed,
      parse.eq_1] at closed
    cases closed
  · intro pieces others canonical canonical' same
    exact split_eq_of_written canonical canonical' same

theorem expansion_by_pieces_sample :
    let env : Environment := ⟨[("HOME", "$DIR\x7d"), ("", "x")]⟩
    let pieces : List Piece :=
      [.literal "at ".toList, .dollar, .dollar, .literal "-".toList, .braced "HOME".toList,
        .bare "HOME".toList, .literal "/".toList]
    Canonical pieces ∧
      expand env "at $$-$\x7bHOME\x7d$HOME/" = .ok "at $$-$DIR\x7d$DIR\x7d/" ∧
      expand env "at $$-$\x7bHOME\x7d$HOME/$\x7b\x7d$\x7bHOME" = .error (.variableMissing "") := by
  intro env pieces
  have canonical : Canonical pieces := by decide +kernel
  have canonical' : Canonical (pieces ++ [Piece.braced []]) := by decide +kernel
  obtain ⟨whole, broken, -⟩ := expansion_by_pieces env
  have read := whole pieces canonical
  have refused := broken (pieces ++ [Piece.braced []]) "HOME".toList canonical' (by decide)
  have set : pieces.findSome? (Piece.unset? env) = none := by decide +kernel
  have unset : (pieces ++ [Piece.braced []]).findSome? (Piece.unset? env) = some [] := by
    decide +kernel
  have text : String.ofList (written pieces) = "at $$-$\x7bHOME\x7d$HOME/" := by decide +kernel
  have value : String.ofList (replaced env pieces) = "at $$-$DIR\x7d$DIR\x7d/" := by
    decide +kernel
  have unclosed : String.ofList (written (pieces ++ [Piece.braced []]) ++
      '$' :: '\x7b' :: "HOME".toList) = "at $$-$\x7bHOME\x7d$HOME/$\x7b\x7d$\x7bHOME" := by
    decide +kernel
  rw [text, settled, set, value] at read
  rw [unclosed, settled, unset] at refused
  exact ⟨canonical, read, refused⟩

end Joinery.Template
