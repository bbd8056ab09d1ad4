import Joinery.Config.Document.Reader
import Joinery.Config.Files
import Joinery.Config.Template
import Joinery.Mapping.Basic
import Joinery.Sql.Pool

/-!
Settings: named connections, named mappings and the capacity of query pools. In a
document each of the fixed records may be written as a table or as an array of its
fields in order; unknown keys are passed over. Keys are taken in sorted order, and
the first fault on that way is the one reported.
-/
namespace Joinery

structure ConnectionSettings where
  driver : String
  connection : String
deriving DecidableEq, Repr

structure Settings where
  connections : List (String × ConnectionSettings)
  poolCapacity : Nat
  mappings : List (String × Mapping)

def Settings.default : Settings := ⟨[], Sql.Pool.defaultCapacity, []⟩

namespace Document

abbrev Decoded (α : Type) := Except DocumentFault α

def byKey (entries : List (String × Node)) : List (String × Node) :=
  entries.mergeSort fun a b => decide (a.1 ≤ b.1)

mutual

def Node.representable : Node → Bool
  | .integer none => false
  | .integer (some (.ofNat n)) => decide (n < 1 <<< 128)
  | .integer (some (.negSucc n)) => decide (n < 1 <<< 127)
  | .real fits => fits
  | .array _ items => allRepresentable items
  | .table _ entries => entriesRepresentable entries
  | _ => true

def allRepresentable : List Node → Bool
  | [] => true
  | n :: rest => n.representable && allRepresentable rest

def entriesRepresentable : List (String × Node) → Bool
  | [] => true
  | (_, n) :: rest => n.representable && entriesRepresentable rest

end

def passOver (n : Node) : Decoded Unit :=
  if n.representable then .ok () else .error .shape

def text : Node → Decoded String
  | .text s => .ok s
  | _ => .error .shape

def boolean : Node → Decoded Bool
  | .boolean b => .ok b
  | _ => .error .shape

def count : Node → Decoded Nat
  | .integer (some n) =>
    if 0 ≤ n ∧ n < 0x10000000000000000 then .ok n.toNat else .error .shape
  | _ => .error .shape

def isEmptyNode : Node → Bool
  | .table _ entries => entries.isEmpty
  | .array _ items => items.isEmpty
  | _ => false

def columnType : Node → Decoded ColumnType
  | .text s =>
    match ColumnType.ofName? s with
    | some t => .ok t
    | none => .error .shape
  | .table _ [(s, n)] =>
    match ColumnType.ofName? s with
    | some t => if isEmptyNode n then .ok t else .error .shape
    | none => .error .shape
  | _ => .error .shape

/-- Decodes the fields of a record: `field` says what to do with the value of a key,
    given what was decoded before. -/
def fields {σ : Type} (field : σ → String → Node → Decoded σ) :
    σ → List (String × Node) → Decoded σ
  | s, [] => .ok s
  | s, (key, n) :: rest =>
    match field s key n with
    | .error e => .error e
    | .ok s => fields field s rest

/-- The fields of a record written as an array are named by position; items beyond
    the last name are ignored. A date counts as a table without any known key. -/
def recordEntries (names : List String) : Node → Decoded (List (String × Node))
  | .table _ entries => .ok (byKey entries)
  | .array _ items => .ok (names.zip items)
  | .moment => .ok []
  | _ => .error .shape

def record {σ α : Type} (names : List String) (blank : σ)
    (field : σ → String → Node → Decoded σ) (complete : σ → Decoded α) (n : Node) :
    Decoded α :=
  match recordEntries names n with
  | .error e => .error e
  | .ok entries =>
    match fields field blank entries with
    | .error e => .error e
    | .ok s => complete s

def skipField {σ : Type} (s : σ) (n : Node) : Decoded σ := (passOver n).map fun _ => s

def list {α : Type} (item : Node → Decoded α) : List Node → Decoded (List α)
  | [] => .ok []
  | n :: rest =>
    match item n with
    | .error e => .error e
    | .ok a => (list item rest).map (a :: ·)

def array {α : Type} (item : Node → Decoded α) : Node → Decoded (List α)
  | .array _ items => list item items
  | _ => .error .shape

def named {α : Type} (item : Node → Decoded α) : Node → Decoded (List (String × α))
  | .table _ entries =>
    fields (fun acc key n => (item n).map fun a => acc ++ [(key, a)]) [] (byKey entries)
  | _ => .error .shape

structure PartialConnection where
  driver : Option String
  connection : Option String

def connection : Node → Decoded ConnectionSettings :=
  record ["driver", "connection_string"] (PartialConnection.mk none none)
    (fun c key n =>
      if key = "driver" then (text n).map fun s => { c with driver := some s }
      else if key = "connection_string" then
        (text n).map fun s => { c with connection := some s }
      else skipField c n)
    fun c =>
      match c.driver, c.connection with
      | some driver, some connection => .ok ⟨driver, connection⟩
      | _, _ => .error .shape

structure PartialColumn where
  property : Option String
  name : Option String
  type : Option ColumnType
  identity : Bool

def column : Node → Decoded Column :=
  record ["property", "column", "type", "identity"] (PartialColumn.mk none none none false)
    (fun c key n =>
      if key = "property" then (text n).map fun s => { c with property := some s }
      else if key = "column" then (text n).map fun s => { c with name := some s }
      else if key = "type" then (columnType n).map fun t => { c with type := some t }
      else if key = "identity" then (boolean n).map fun b => { c with identity := b }
      else skipField c n)
    fun c =>
      match c.property, c.name, c.type with
      | some property, some name, some type => .ok ⟨property, name, type, c.identity⟩
      | _, _, _ => .error .shape

structure PartialMapping where
  table : Option String
  columns : Option (List Column)

def mapping : Node → Decoded Mapping :=
  record ["table", "columns"] (PartialMapping.mk none none)
    (fun m key n =>
      if key = "table" then (text n).map fun s => { m with table := some s }
      else if key = "columns" then
        (array column n).map fun cs => { m with columns := some cs }
      else skipField m n)
    fun m =>
      match m.table, m.columns with
      | some table, some columns =>
        match Mapping.ofColumns table columns with
        | .ok m => .ok m
        | .error fault => .error (.mapping fault)
      | _, _ => .error .shape

def poolCapacity : Node → Decoded Nat :=
  record ["pool_capacity"] Sql.Pool.defaultCapacity
    (fun c key n => if key = "pool_capacity" then count n else skipField c n) .ok

def settings (t : Table) : Decoded Settings :=
  fields
    (fun s key n =>
      if key = "connections" then
        (named connection n).map fun cs => { s with connections := cs }
      else if key = "mappings" then (named mapping n).map fun ms => { s with mappings := ms }
      else if key = "query" then (poolCapacity n).map fun c => { s with poolCapacity := c }
      else skipField s n)
    Settings.default (byKey t.entries)

end Document

/-- Where settings are looked for: in the file asked for by name and no other, or else in the
    first of the usual files that there is. -/
structure Locations where
  requested : Option String
  usual : List String
  read : String → Source

namespace Settings

def parse (document : String) : Except SettingsError Settings :=
  match Document.read document with
  | none => .error (.malformed .grammar)
  | some t =>
    match Document.settings t with
    | .error fault => .error (.malformed fault)
    | .ok s => if s.poolCapacity = 0 then .error .emptyPool else .ok s

def decodeText (content : List UInt8) : Option String :=
  String.fromUTF8? (ByteArray.mk content.toArray)

def ofFile (places : Locations) (path : String) : Except SettingsError Settings :=
  match places.read path with
  | .absent => .error (.fileNotFound path)
  | .unreadable => .error .unreadable
  | .bytes content =>
    match decodeText content with
    | some document => parse document
    | none => .error .unreadable

def isPresent : Source → Bool
  | .absent => false
  | _ => true

def load (places : Locations) : Except SettingsError Settings :=
  match places.requested with
  | some path => ofFile places path
  | none =>
    match places.usual.find? fun path => isPresent (places.read path) with
    | some path => ofFile places path
    | none => .ok Settings.default

def connection (s : Settings) (name : String) : Except SettingsError ConnectionSettings :=
  match s.connections.lookup name with
  | some c => .ok c
  | none => .error (.connectionNotFound name)

def mapping (s : Settings) (name : String) : Except SettingsError Mapping :=
  match s.mappings.lookup name with
  | some m => .ok m
  | none => .error (.mappingNotFound name)

end Settings

namespace ConnectionSettings

def driverType (c : ConnectionSettings) : Except SettingsError Driver :=
  match Driver.ofName c.driver with
  | .ok d => .ok d
  | .error _ => .error (.unsupportedDriver c.driver)

def resolved (c : ConnectionSettings) (env : Environment) : Except SettingsError String :=
  Template.expand env c.connection

def descriptor (c : ConnectionSettings) (env : Environment) :
    Except SettingsError Descriptor :=
  match c.driverType with
  | .error e => .error e
  | .ok driver => (c.resolved env).map fun connection => ⟨driver, connection⟩

end ConnectionSettings

structure DataSource where
  descriptor : Descriptor
  pool : Sql.Pool

namespace DataSource

def ofDescriptor (d : Descriptor) (capacity : Nat) : DataSource :=
  ⟨d, Sql.Pool.ofCapacity capacity⟩

def dialect (s : DataSource) : Dialect := s.descriptor.driver.dialect

def canJoin (s t : DataSource) : Bool := s.descriptor = t.descriptor

/-- Opens a connection of the settings. Databases in memory can always be opened;
    `refusal` tells why a file cannot. -/
def ofSettings (s : Settings) (env : Environment) (refusal : String → Option String)
    (name : String) : Except Error DataSource :=
  match (s.connection name).bind fun c => c.descriptor env with
  | .error e => .error (.settings e)
  | .ok d =>
    if d.driver ≠ .sqlite then .error (.configuration (.notOpenable name d.driver))
    else if d.isInMemory then .ok (ofDescriptor d s.poolCapacity)
    else
      match refusal d.connection with
      | some reason => .error (.configuration (.cannotOpen d.connection reason))
      | none => .ok (ofDescriptor d s.poolCapacity)

end DataSource
end Joinery
