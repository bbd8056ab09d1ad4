import Joinery.Config.Descriptor
import Joinery.Criteria.Join
import Joinery.Value.Coerce

/-!
What can go wrong, by cause. Faults of configuration are found before anything is
executed; the place where one was found is told first.
-/
namespace Joinery

inductive Place where
  | join
  | joinExpression (e : JoinExpression)
  | criteriaOf (aliasName : String)

inductive Fault where
  | tableNameMissing
  | noColumns (table : String)
  | propertyMappedTwice (property table : String)
  | columnMappedTwice (column table : String)
  | propertyNotMapped (table property : String)
  | unknownBinding (table property : String)
  | unboundProperties (table : String) (properties : List String)
  | tooFewStores (count : Nat)
  | tooManyStores (count : Nat)
  | chainFull
  | aliasTaken (aliasName : String)
  | joinTypeMissing (aliasName : String)
  | joinConditionMissing (aliasName : String)
  | unknownAlias (aliasName : String)
  | storePropertyNotMapped (aliasName table property : String)
  | valueNotBindable (aliasName property : String) (type : ColumnType) (cause : ValueError)
  | foreignStore (table : String) (chain store : Descriptor)
  | notOpenable (connection : String) (driver : Driver)
  | cannotOpen (path reason : String)
  | found (place : Place) (fault : Fault)

inductive DocumentFault where
  | grammar
  | shape
  | mapping (fault : Fault)

inductive SettingsError where
  | fileNotFound (path : String)
  | unreadable
  | malformed (cause : DocumentFault)
  | variableMissing (name : String)
  | connectionNotFound (name : String)
  | mappingNotFound (name : String)
  | unsupportedDriver (name : String)
  | unterminatedReference (text : String)
  | emptyPool

inductive Feature where
  | fullOuterJoin (aliasName : String)
  | containment (property : String)
deriving DecidableEq

inductive Error where
  | configuration (fault : Fault)
  | unsupported (dialect : Dialect) (feature : Feature)
  | execution (statement : String) (params : List Value) (cause : String)
  | missingColumn (store property column : String)
  | materialization (store property : String) (cause : ValueError)
  | settings (cause : SettingsError)

/-- The most stores one statement can join, a letter being needed for each. -/
def maxStores : Nat := 26

def Place.display : Place → String
  | .join => "join"
  | .joinExpression e => "join expression '" ++ e.display ++ "'"
  | .criteriaOf aliasName => "criteria of store '" ++ aliasName ++ "'"

def mappingName (table : String) : String := "ClassMapping(" ++ table ++ ")"

def Fault.message : Fault → String
  | .tableNameMissing => "A class mapping needs a table name"
  | .noColumns table => "Class mapping for table '" ++ table ++ "' has no columns"
  | .propertyMappedTwice property table =>
    "Property '" ++ property ++ "' is mapped twice on table '" ++ table ++ "'"
  | .columnMappedTwice column table =>
    "Column '" ++ column ++ "' is mapped twice on table '" ++ table ++ "'"
  | .propertyNotMapped table property =>
    "Table '" ++ table ++ "' has no mapped property '" ++ property ++ "'"
  | .unknownBinding table property =>
    mappingName table ++ " has no property '" ++ property ++ "' to bind"
  | .unboundProperties table properties =>
    mappingName table ++ " has unbound properties: " ++ ", ".intercalate properties
  | .tooFewStores count => "A join needs at least 2 stores, got " ++ toString count
  | .tooManyStores count =>
    "A join supports at most " ++ toString maxStores ++ " stores, got " ++ toString count
  | .chainFull => "A join supports at most " ++ toString maxStores ++ " stores"
  | .aliasTaken aliasName =>
    "You cannot use the same alias multiple times: '" ++ aliasName ++ "'"
  | .joinTypeMissing aliasName => "Store '" ++ aliasName ++ "' was joined without a join type"
  | .joinConditionMissing aliasName =>
    "Store '" ++ aliasName ++ "' was joined without any join expressions"
  | .unknownAlias aliasName =>
    "Join criteria aliases must match an already provided DAO alias: '" ++ aliasName ++ "'"
  | .storePropertyNotMapped aliasName table property =>
    "Store '" ++ aliasName ++ "' (table '" ++ table ++ "') has no mapped property '"
      ++ property ++ "'"
  | .valueNotBindable aliasName property type cause =>
    "Cannot bind a value to " ++ aliasName ++ "." ++ property ++ " (" ++ type.name ++ "): "
      ++ cause.message
  | .foreignStore table chain store =>
    "DAO does not support native joins with '" ++ table ++ "' (" ++ chain.display
      ++ " vs " ++ store.display ++ ")"
  | .notOpenable connection driver =>
    "Connection '" ++ connection ++ "' uses driver '" ++ driver.name
      ++ "'; only sqlite connections can be opened from settings"
  | .cannotOpen path reason =>
    "Cannot open SQLite database '" ++ path ++ "': " ++ reason
  | .found place fault =>
    "Unable to add " ++ place.display ++ " to query: " ++ fault.message

def Fault.report (f : Fault) : String := "Configuration error: " ++ f.message

def DocumentFault.message : DocumentFault → String
  | .grammar => "the document is not well formed"
  | .shape => "a setting is missing or of the wrong type"
  | .mapping fault => fault.report

def SettingsError.message : SettingsError → String
  | .fileNotFound path => "Config file not found: " ++ path
  | .unreadable => "Failed to read config file"
  | .malformed cause => "Failed to parse config file: " ++ cause.message
  | .variableMissing name => "Missing environment variable: " ++ name
  | .connectionNotFound name => "Connection not found: " ++ name
  | .mappingNotFound name => "Mapping not found: " ++ name
  | .unsupportedDriver name => "Unsupported driver: " ++ name
  | .unterminatedReference text =>
    "Invalid configuration: Unterminated variable reference in '" ++ text ++ "'"
  | .emptyPool => "Invalid configuration: query.pool_capacity must be at least 1"

def Feature.display : Feature → String
  | .fullOuterJoin aliasName => "full outer join of store '" ++ aliasName ++ "'"
  | .containment property => "spatial containment on '" ++ property ++ "'"

namespace Error

def message : Error → String
  | .configuration fault => fault.report
  | .unsupported dialect feature =>
    "Unsupported by " ++ dialect.name ++ ": " ++ feature.display
  | .execution statement params cause =>
    "Execution failed: " ++ cause ++ "; SQL: \x7b" ++ statement ++ "\x7d Params: \x7b"
      ++ renderParams params ++ "\x7d"
  | .missingColumn store property column =>
    "Store '" ++ store ++ "' maps property '" ++ property ++ "' to column '" ++ column
      ++ "', but that column was not present in the results"
  | .materialization store property cause =>
    "Unable to set property '" ++ property ++ "' on store '" ++ store ++ "': "
      ++ cause.message
  | .settings cause => cause.message

def isConfiguration : Error → Bool
  | .configuration _ => true
  | .unsupported _ _ => true
  | .settings _ => true
  | _ => false

def foundAt (place : Place) : Error → Error
  | .configuration fault => .configuration (.found place fault)
  | e => e

end Error
end Joinery
