import Joinery.Error
import Joinery.Text.Alphanumeric

/-!
Texts with references to environment variables, `$name` or `${name}`. A bare name
is as long as letters, digits and underscores follow; a braced one ends at the first
closing brace. A dollar sign that names nothing stands for itself. What is put in
for a reference is never looked at again.
-/
namespace Joinery

structure Environment where
  entries : List (String × String)

def Environment.line (entry : String × String) : List Char :=
  entry.1.toList ++ '=' :: entry.2.toList

/-- What follows the name and an equals sign at the front of a line. A name may so reach
    over the equals sign of a line into its value; the empty name and names with a null
    character find nothing. -/
def Environment.get? (env : Environment) (name : String) : Option String :=
  if name = "" ∨ '\x00' ∈ name.toList then none
  else
    env.entries.findSome? fun entry =>
      ((name.toList ++ ['=']).isPrefixOf? (line entry)).map String.ofList

namespace Template

inductive Segment where
  | character (c : Char)
  | reference (name : List Char)
deriving DecidableEq, Repr

def isNameCharacter (c : Char) : Bool := Text.isAlphanumeric c || c == '_'

def parse (s : List Char) : List Segment × Bool :=
  match s with
  | [] => ([], true)
  | '$' :: '\x7b' :: rest =>
    match h : rest.dropWhile (· != '\x7d') with
    | [] => ([], false)
    | _ :: after =>
      have : after.length < rest.length := by
        have := (List.dropWhile_sublist (· != '\x7d') (l := rest)).length_le
        rw [h] at this
        exact this
      let (segments, closed) := parse after
      (.reference (rest.takeWhile (· != '\x7d')) :: segments, closed)
  | '$' :: rest =>
    let name := rest.takeWhile isNameCharacter
    have := (List.dropWhile_sublist isNameCharacter (l := rest)).length_le
    let (segments, closed) := parse (rest.dropWhile isNameCharacter)
    (if name.isEmpty then .character '$' :: segments else .reference name :: segments, closed)
  | c :: rest =>
    let (segments, closed) := parse rest
    (.character c :: segments, closed)
termination_by s.length

def resolve (env : Environment) : List Segment → Except SettingsError (List Char)
  | [] => .ok []
  | .character c :: rest => (resolve env rest).map (c :: ·)
  | .reference name :: rest =>
    match env.get? (String.ofList name) with
    | none => .error (.variableMissing (String.ofList name))
    | some v => (resolve env rest).map (v.toList ++ ·)

def expand (env : Environment) (text : String) : Except SettingsError String :=
  let (segments, closed) := parse text.toList
  match resolve env segments with
  | .error e => .error e
  | .ok s => if closed then .ok (String.ofList s) else .error (.unterminatedReference text)

end Template
end Joinery
