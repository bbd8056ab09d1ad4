/-!
Quoted names and strings of SQL. The closing character is doubled inside, and that
is the only escape.
-/
namespace Joinery.Sql

structure Delimiters where
  opening : List Char
  closing : Char
deriving DecidableEq, Repr

def doubled (q : Char) : List Char → List Char
  | [] => []
  | c :: rest => if c = q then q :: q :: doubled q rest else c :: doubled q rest

def Delimiters.enclose (d : Delimiters) (s : List Char) : List Char :=
  d.opening ++ doubled d.closing s ++ [d.closing]

def doubleQuotes : Delimiters := ⟨['"'], '"'⟩
def backticks : Delimiters := ⟨['\x60'], '\x60'⟩
def brackets : Delimiters := ⟨['['], ']'⟩
def singleQuotes : Delimiters := ⟨['\''], '\''⟩

def nationalQuotes : Delimiters := ⟨['N', '\''], '\''⟩

end Joinery.Sql
