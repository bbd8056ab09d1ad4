import Joinery.Proofs.Sql.Lexeme

/-!
Quotations among other text. Reading from an opening up to the first closing character that is not
doubled gives back what was quoted and leaves what follows. So nothing in a name or a string ends
its quotation, and different ones are quoted differently.
-/
namespace Joinery.Sql
open Lexeme

theorem upTo_eq_some_iff {q : Char} {cs s rest : List Char} :
    upTo q cs = some (s, rest) ↔ cs = doubled q s ++ q :: rest ∧ rest.head? ≠ some q := by
  constructor
  · intro read
    -- the cases of the reader are the ways in which a character can have been written
    fun_induction upTo q cs generalizing s with
    | case1 => cases read
    | case2 =>
      cases read
      simp [doubled]
    | case3 behind ih =>
      obtain ⟨⟨t, u⟩, inner, same⟩ := Option.map_eq_some_iff.mp read
      cases same
      obtain ⟨rfl, next⟩ := ih inner
      exact ⟨by simp [doubled], next⟩
    | case4 c behind other =>
      cases read
      exact ⟨rfl, by simpa using other⟩
    | case5 c behind other ih =>
      obtain ⟨⟨t, u⟩, inner, same⟩ := Option.map_eq_some_iff.mp read
      cases same
      obtain ⟨rfl, next⟩ := ih inner
      exact ⟨by simp [doubled, other], next⟩
  · rintro ⟨rfl, next⟩
    exact upTo_doubled q s next

theorem enclosed_eq_some_iff {q : Delimiters} {cs rest : List Char} {s : String} :
    enclosed q cs = some (s, rest) ↔
      cs = q.enclose s.toList ++ rest ∧ rest.head? ≠ some q.closing := by
  constructor
  · intro read
    obtain ⟨inner, opened, closed⟩ := Option.bind_eq_some_iff.mp read
    obtain ⟨⟨t, u⟩, body, same⟩ := Option.map_eq_some_iff.mp closed
    cases same
    obtain ⟨rfl, next⟩ := upTo_eq_some_iff.mp body
    rw [← List.isPrefixOf?_eq_some_iff_append_eq.mp opened]
    exact ⟨by simp [Delimiters.enclose], next⟩
  · rintro ⟨rfl, next⟩
    exact enclosed_enclose q s next

/-- A string in single quotes, after the mark for more than ASCII if there is one. -/
def stringLiteral : Scanner String
  | 'N' :: cs => enclosed singleQuotes cs
  | cs => enclosed singleQuotes cs

theorem stringLiteral_eq_some_iff {cs rest : List Char} {s : String} :
    stringLiteral cs = some (s, rest) ↔
      (∃ q ∈ [singleQuotes, nationalQuotes], cs = q.enclose s.toList ++ rest) ∧
        rest.head? ≠ some '\'' := by
  have closing : singleQuotes.closing = '\'' := rfl
  have marked : nationalQuotes.enclose s.toList = 'N' :: singleQuotes.enclose s.toList := rfl
  obtain ⟨inner, plain⟩ : ∃ inner, singleQuotes.enclose s.toList ++ rest = '\'' :: inner := ⟨_, rfl⟩
  simp only [List.mem_cons, List.not_mem_nil, or_false, exists_eq_or_imp, exists_eq_left, marked,
    List.cons_append]
  unfold stringLiteral
  split
  · rename_i cs
    have unlike : 'N' :: cs ≠ singleQuotes.enclose s.toList ++ rest := by
      rw [plain]
      simp
    simp [enclosed_eq_some_iff, closing, unlike]
  · rename_i unmarked
    have unlike : cs ≠ 'N' :: (singleQuotes.enclose s.toList ++ rest) := fun same => unmarked _ same
    simp [enclosed_eq_some_iff, closing, unlike]

theorem stringLiteral_quoteString (d : Dialect) (s : String) {rest : List Char}
    (next : rest.head? ≠ some '\'') : stringLiteral (d.quoteString s ++ rest) = some (s, rest) := by
  refine stringLiteral_eq_some_iff.mpr ⟨⟨d.stringDelimiters s.toList, ?_, rfl⟩, next⟩
  unfold Dialect.stringDelimiters
  split <;> simp

structure Decodable (quote : String → List Char) (closing : Char) (read : Scanner String) :
    Prop where
  decoded : ∀ s rest, rest.head? ≠ some closing → read (quote s ++ rest) = some (s, rest)
  /-- No part of a quotation is taken for the whole. -/
  whole : ∀ s rest, rest.head? ≠ some closing → ∀ early late, quote s = early ++ late →
    late ≠ [] → ∀ t, read (quote s ++ rest) ≠ some (t, late ++ rest)
  unique : ∀ s s' rest rest', rest.head? ≠ some closing → rest'.head? ≠ some closing →
    quote s ++ rest = quote s' ++ rest' → s = s' ∧ rest = rest'
  injective : Function.Injective quote

theorem decodable_of_decoded {quote : String → List Char} {closing : Char} {read : Scanner String}
    (decoded : ∀ s rest, rest.head? ≠ some closing → read (quote s ++ rest) = some (s, rest)) :
    Decodable quote closing read := by
  have unique : ∀ s s' rest rest', rest.head? ≠ some closing → rest'.head? ≠ some closing →
      quote s ++ rest = quote s' ++ rest' → s = s' ∧ rest = rest' := by
    intro s s' rest rest' next next' same
    have read := decoded s rest next
    rw [same, decoded s' rest' next', Option.some.injEq, Prod.mk.injEq] at read
    exact ⟨read.1.symm, read.2.symm⟩
  refine ⟨decoded, ?_, unique, ?_⟩
  · intro s rest next early late _ more t stopped
    rw [decoded s rest next, Option.some.injEq, Prod.mk.injEq] at stopped
    have nothing : late = [] := List.self_eq_append_left.mp stopped.2
    exact more nothing
  · intro s s' same
    have apart : ([] : List Char).head? ≠ some closing := by simp
    exact (unique s s' [] [] apart apart (by rw [same])).1

/-- Names and strings are read back from any text that goes on after them, and nothing but their
    quotations is read as one. -/
theorem quotations_decodable (d : Dialect) :
    Decodable d.quoteIdentifier d.nameDelimiters.closing (enclosed d.nameDelimiters) ∧
      Decodable d.quoteString '\'' stringLiteral ∧
      (∀ cs s rest, enclosed d.nameDelimiters cs = some (s, rest) ↔
        cs = d.quoteIdentifier s ++ rest ∧ rest.head? ≠ some d.nameDelimiters.closing) ∧
      ∀ cs s rest, stringLiteral cs = some (s, rest) ↔
        (∃ q ∈ [singleQuotes, nationalQuotes], cs = q.enclose s.toList ++ rest) ∧
          rest.head? ≠ some '\'' := by
  refine ⟨decodable_of_decoded ?_, decodable_of_decoded ?_, ?_, ?_⟩
  · intro s rest next
    exact enclosed_enclose d.nameDelimiters s next
  · intro s rest next
    exact stringLiteral_quoteString d s next
  · intro cs s rest
    exact enclosed_eq_some_iff
  · intro cs s rest
    exact stringLiteral_eq_some_iff

theorem quotations_decodable_sample :
    enclosed Dialect.tsql.nameDelimiters "[a]]]]].[b]".toList = some ("a]]", ".[b]".toList) ∧
      stringLiteral "N'é'''''), 'x'".toList = some ("é''", "), 'x'".toList) := by
  obtain ⟨names, strings, -, -⟩ := quotations_decodable .tsql
  have name : "[a]]]]].[b]".toList = Dialect.tsql.quoteIdentifier "a]]" ++ ".[b]".toList := by
    decide +kernel
  have string : "N'é'''''), 'x'".toList = Dialect.tsql.quoteString "é''" ++ "), 'x'".toList := by
    decide +kernel
  rw [name, string]
  exact ⟨names.decoded _ _ (by decide +kernel), strings.decoded _ _ (by decide +kernel)⟩

end Joinery.Sql
