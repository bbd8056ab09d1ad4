import Joinery.Chain.Layout
import Joinery.Text.Quoted

/-!
Join chains: stores of one data source, each attached to those before it. A chain
is never changed; joining yields a new one. The result of a row pairs the record of
every store with the results of the chain before it, absent records included.
-/
namespace Joinery

structure Store (ρ : Type) where
  source : Descriptor
  records : RecordMapping ρ

def Descriptor.describe (d : Descriptor) : String :=
  "ConnectionDescriptor \x7b driver: " ++ d.driver.title ++ ", connection_string: "
    ++ Text.quoted d.connection ++ " \x7d"

namespace Store
variable {ρ : Type}

def create (source : Descriptor) (records : RecordMapping ρ) : Except Fault (Store ρ) :=
  records.validate.map fun _ => ⟨source, records⟩

def mapping (s : Store ρ) : Mapping := s.records.mapping

def describe (s : Store ρ) : String :=
  "Store \x7b table: " ++ Text.quoted s.mapping.table ++ ", source: "
    ++ s.source.describe ++ " \x7d"

end Store

structure Link (ρ : Type) where
  member : Sql.Member
  records : RecordMapping ρ

structure Chain (ρ : Type) where
  source : Descriptor
  first : Link ρ
  rest : List (Link ρ)

/-- The records of one row, nested to the left. -/
inductive Joined (ρ : Type) where
  | single (record : Option ρ)
  | pair (left : Joined ρ) (right : Option ρ)

def Joined.toList {ρ : Type} : Joined ρ → List (Option ρ)
  | .single record => [record]
  | .pair left right => left.toList ++ [right]

namespace Chain
variable {ρ : Type}

def links (c : Chain ρ) : List (Link ρ) := c.first :: c.rest

def members (c : Chain ρ) : List Sql.Member := c.links.map Link.member

def aliases (c : Chain ρ) : List String := c.members.map Sql.Member.aliasName

def length (c : Chain ρ) : Nat := c.links.length

def dialect (c : Chain ρ) : Dialect := c.source.driver.dialect

def describe (c : Chain ρ) : String :=
  "JoinChain \x7b source: " ++ c.source.describe ++ ", aliases: "
    ++ Value.bracketed (c.aliases.map Text.quoted) ++ " \x7d"

def begin (store : Store ρ) (criteria : Option Criteria) (aliasName : Option String) : Chain ρ :=
  ⟨store.source, ⟨Sql.Member.root store.mapping criteria aliasName, store.records⟩, []⟩

/-- Why a store cannot be attached: another source, no letter left, an alias in use,
    or an expression that names a store not yet in the chain. -/
def joinFault (c : Chain ρ) (store : Store ρ) (join : JoinCriteria) : Option Fault :=
  let aliasName := join.aliasName.getD store.mapping.table
  if c.source ≠ store.source then
    some (.foreignStore store.mapping.table c.source store.source)
  else if maxStores ≤ c.length then some .chainFull
  else if aliasName ∈ c.aliases then some (.aliasTaken aliasName)
  else
    (join.on.find? fun e => e.otherAlias ∉ c.aliases).map fun e => .unknownAlias e.otherAlias

def join (c : Chain ρ) (store : Store ρ) (join : JoinCriteria) : Except Fault (Chain ρ) :=
  match c.joinFault store join with
  | some fault => .error (.found .join fault)
  | none =>
    .ok { c with
      rest := c.rest ++ [⟨Sql.Member.joined store.mapping join, store.records⟩] }

def extend (read : Nat → RecordMapping ρ → Except Error (Option ρ)) :
    Nat → Joined ρ → List (Link ρ) → Except Error (Joined ρ)
  | _, acc, [] => .ok acc
  | index, acc, l :: rest =>
    match read index l.records with
    | .error e => .error e
    | .ok record => extend read (index + 1) (.pair acc record) rest

def build (c : Chain ρ) (r : Reading) : Except Error (Joined ρ) :=
  match r.read 0 c.first.records with
  | .error e => .error e
  | .ok record => extend r.read 1 (.single record) c.rest

end Chain
end Joinery
