import Joinery.Decimal.Shortest

/-!
How doubles are written. Both styles use the shortest digits that read back. The
plain style never uses an exponent and adds nothing to whole numbers; the exact
style marks whole numbers with `.0` and uses an exponent below `1e-4` and from
`1e16` up.
-/
namespace Joinery.Decimal

/-- `positional p` says whether a number whose decimal point stands after `p` digits
    is written without an exponent. -/
structure Style where
  positional : Int → Bool
  whole : List Char

def Style.plain : Style := ⟨fun _ => true, []⟩

def Style.exact : Style := ⟨fun p => -4 < p && p ≤ 16, ['.', '0']⟩

def zeros (n : Nat) : List Char := List.replicate n '0'

def positionalDigits (digits : List Char) (point : Int) (whole : List Char) : List Char :=
  if point ≤ 0 then ['0', '.'] ++ zeros (-point).toNat ++ digits
  else if digits.length ≤ point.toNat then
    digits ++ zeros (point.toNat - digits.length) ++ whole
  else digits.take point.toNat ++ ['.'] ++ digits.drop point.toNat

def exponentDigits (digits : List Char) (point : Int) : List Char :=
  let fraction := digits.drop 1
  digits.take 1 ++ (if fraction.isEmpty then [] else '.' :: fraction)
    ++ 'e' :: (toString (point - 1)).toList

def significant (d : Decimal) : List Char :=
  ((Nat.toDigits 10 d.coefficient).reverse.dropWhile (· == '0')).reverse

def Style.magnitude (style : Style) (m : Nat) (e : Int) : List Char :=
  if m = 0 then '0' :: style.whole
  else
    let d := shortest m e
    let digits := significant d
    let point := digitCount d.coefficient + d.exponent
    if style.positional point then positionalDigits digits point style.whole
    else exponentDigits digits point

def Style.write (style : Style) (x : Double) : String :=
  match x.view with
  | .nan => "NaN"
  | .infinite n => if n then "-inf" else "inf"
  | .finite n m e =>
    String.ofList ((if n then ['-'] else []) ++ style.magnitude m e)

end Joinery.Decimal
