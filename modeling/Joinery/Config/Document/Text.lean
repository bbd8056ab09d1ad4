/-!
Strings and keys of a document. A reader takes the text after the opening quotes and
gives back the content and what follows the closing ones.
-/
namespace Joinery.Document

abbrev Step (α : Type) := Option (α × List Char)

def Step.cons (c : Char) (s : Step (List Char)) : Step (List Char) :=
  s.map fun (content, rest) => (c :: content, rest)

def isControl (c : Char) : Bool := (c.toNat < 0x20 && c != '\t') || c.toNat == 0x7F

def hexDigit? (c : Char) : Option Nat :=
  if c.isDigit then some (c.toNat - 48)
  else if 'a' ≤ c ∧ c ≤ 'f' then some (c.toNat - 87)
  else if 'A' ≤ c ∧ c ≤ 'F' then some (c.toNat - 55)
  else none

def hexValue? (digits : List Char) : Option Nat :=
  digits.foldl (fun n c => match n, hexDigit? c with
    | some n, some d => some (16 * n + d)
    | _, _ => none) (some 0)

def scalar? (digits : List Char) : Option Char :=
  match hexValue? digits with
  | some n => if n < 0xD800 ∨ (0xDFFF < n ∧ n < 0x110000) then some (Char.ofNat n) else none
  | none => none

def escaped? : Char → Option Char
  | 'b' => some '\x08'
  | 't' => some '\t'
  | 'n' => some '\n'
  | 'f' => some '\x0c'
  | 'r' => some '\r'
  | 'e' => some '\x1b'
  | '"' => some '"'
  | '\\' => some '\\'
  | _ => none

def withScalar (digits : List Char) (s : Step (List Char)) : Step (List Char) :=
  match scalar? digits with
  | some c => Step.cons c s
  | none => none

def basic : List Char → Step (List Char)
  | [] => none
  | '"' :: rest => some ([], rest)
  | '\\' :: 'x' :: a :: b :: rest => withScalar [a, b] (basic rest)
  | '\\' :: 'u' :: a :: b :: c :: d :: rest => withScalar [a, b, c, d] (basic rest)
  | '\\' :: 'U' :: a :: b :: c :: d :: e :: f :: g :: h :: rest =>
    withScalar [a, b, c, d, e, f, g, h] (basic rest)
  | '\\' :: c :: rest =>
    match escaped? c with
    | some c => Step.cons c (basic rest)
    | none => none
  | c :: rest => if isControl c || c == '\\' then none else Step.cons c (basic rest)

def literal : List Char → Step (List Char)
  | [] => none
  | '\'' :: rest => some ([], rest)
  | c :: rest => if isControl c then none else Step.cons c (literal rest)

/-- Within a string of several lines: in the text, after a backslash that has to end
    its line, or in the blanks that such a backslash removes. -/
inductive LineMode where
  | text | broken | gap

def isLineBlank (c : Char) : Bool := c == ' ' || c == '\t' || c == '\r'

def multilineBasic : LineMode → List Char → Step (List Char)
  | _, [] => none
  | .broken, '\n' :: rest => multilineBasic .gap rest
  | .broken, c :: rest => if isLineBlank c then multilineBasic .broken rest else none
  | .gap, '\n' :: rest => multilineBasic .gap rest
  | .gap, ' ' :: rest => multilineBasic .gap rest
  | .gap, '\t' :: rest => multilineBasic .gap rest
  | .gap, '\r' :: rest => multilineBasic .gap rest
  | _, '"' :: '"' :: '"' :: '"' :: '"' :: rest => some (['"', '"'], rest)
  | _, '"' :: '"' :: '"' :: '"' :: rest => some (['"'], rest)
  | _, '"' :: '"' :: '"' :: rest => some ([], rest)
  | _, '\\' :: '\n' :: rest => multilineBasic .gap rest
  | _, '\\' :: ' ' :: rest => multilineBasic .broken rest
  | _, '\\' :: '\t' :: rest => multilineBasic .broken rest
  | _, '\\' :: '\r' :: rest => multilineBasic .broken rest
  | _, '\\' :: 'x' :: a :: b :: rest => withScalar [a, b] (multilineBasic .text rest)
  | _, '\\' :: 'u' :: a :: b :: c :: d :: rest =>
    withScalar [a, b, c, d] (multilineBasic .text rest)
  | _, '\\' :: 'U' :: a :: b :: c :: d :: e :: f :: g :: h :: rest =>
    withScalar [a, b, c, d, e, f, g, h] (multilineBasic .text rest)
  | _, '\\' :: c :: rest =>
    match escaped? c with
    | some c => Step.cons c (multilineBasic .text rest)
    | none => none
  | _, c :: rest =>
    if (isControl c && c != '\n' && c != '\r') || c == '\\' then none
    else Step.cons c (multilineBasic .text rest)

def multilineLiteral : List Char → Step (List Char)
  | [] => none
  | '\'' :: '\'' :: '\'' :: '\'' :: '\'' :: rest => some (['\'', '\''], rest)
  | '\'' :: '\'' :: '\'' :: '\'' :: rest => some (['\''], rest)
  | '\'' :: '\'' :: '\'' :: rest => some ([], rest)
  | c :: rest =>
    if isControl c && c != '\n' && c != '\r' then none
    else Step.cons c (multilineLiteral rest)

def dropFirstBreak : List Char → List Char
  | '\n' :: rest => rest
  | '\r' :: '\n' :: rest => rest
  | s => s

def skipBlanks (s : List Char) : List Char := s.dropWhile fun c => c == ' ' || c == '\t'

def isBare (c : Char) : Bool := c.isAlphanum || c == '_' || c == '-'

def simpleKey : List Char → Step (List Char)
  | '"' :: rest => basic rest
  | '\'' :: rest => literal rest
  | s =>
    let key := s.takeWhile isBare
    if key.isEmpty then none else some (key, s.dropWhile isBare)

def maxKeyParts : Nat := 80

def moreKeys : Nat → List Char → Step (List (List Char))
  | 0, _ => none
  | room + 1, s =>
    match skipBlanks s with
    | '.' :: rest =>
      match simpleKey (skipBlanks rest) with
      | none => none
      | some (key, rest) => (moreKeys room rest).map fun (keys, rest) => (key :: keys, rest)
    | rest => some ([], rest)

def keyPath (s : List Char) : Step (List String × String) :=
  match simpleKey s with
  | none => none
  | some (first, rest) =>
    (moreKeys maxKeyParts rest).map fun (more, rest) =>
      let parts := (first :: more).map String.ofList
      ((parts.dropLast, parts.getLast?.getD ""), rest)

end Joinery.Document
