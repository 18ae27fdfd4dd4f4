import LiveChat.Error
import LiveChat.Json.Basic

/-!
# The schema and its migrations

A migration is a numbered list of changes to the tables of a store. It is carried out in a
transaction and recorded there, or it fails and the transaction is rolled back. Other programs may
have made tables, columns and indexes before, so each change passes over what is there already. The
store takes names as equal whatever the case of their letters; but before a column is added, it is
looked up in its exact letters.
-/

namespace LiveChat.Store

open LiveChat.Text

structure Table where
  name : String
  columns : List String
deriving DecidableEq, Repr

/-- A column under a name, in any case of letters. -/
def Table.hasColumn (table : Table) (column : String) : Bool :=
  table.columns.any (sameIgnoringCase column)

/-- The tables of a store and the names of its indexes. -/
structure Schema where
  tables : List Table
  indexes : List String
deriving DecidableEq, Repr

structure Catalogue where
  /-- The recorded versions; absent as long as there is no table of records. -/
  recorded : Option (List Int)
  schema : Schema
deriving DecidableEq, Repr

inductive SchemaChange where
  | createTable (table : Table)
  | createIndex (name table : String) (columns : List String)
  | addColumn (table column : String)
deriving DecidableEq, Repr

structure Migration where
  version : Int
  name : String
  changes : List SchemaChange
deriving DecidableEq, Repr

def messagesTable : Table :=
  ⟨"messages", ["id", "ts", "username", "platform", "text", "emotes_json", "raw_json"]⟩

def sessionsTable : Table :=
  ⟨"sessions", ["token", "service", "data_json", "token_expiry", "updated_at"]⟩

def createMessages : Migration :=
  ⟨1, "create messages",
    [.createTable messagesTable, .createIndex "idx_messages_ts" "messages" ["ts"]]⟩

def createSessions : Migration :=
  ⟨2, "create sessions",
    [.createTable sessionsTable,
     .createIndex "idx_sessions_service_updated" "sessions" ["service", "updated_at"]]⟩

def addBadges : Migration := ⟨3, "add message badges", [.addColumn "messages" "badges_json"]⟩

def migrations : List Migration := [createMessages, createSessions, addBadges]

def latestVersion : Int := (migrations.map Migration.version).foldl max 0

/-- The name of the table of records. -/
def recordsName : String := "schema_migrations"

namespace Schema

/-- A schema in which nothing was made yet. -/
def empty : Schema := ⟨[], []⟩

def table? (schema : Schema) (name : String) : Option Table :=
  schema.tables.find? fun table => sameIgnoringCase name table.name

def hasIndex (schema : Schema) (name : String) : Bool :=
  schema.indexes.any (sameIgnoringCase name)

def fault (detail : String) : Failure :=
  .database ("error returned from database: (code: 1) " ++ detail)

/-- Why no table can be made under the name of an index. -/
def indexNamed (name : String) : Failure := fault ("there is already an index named " ++ name)

/-- Makes a table unless there is one of its name. Tables and indexes share their names. -/
def createTable (schema : Schema) (table : Table) : Result Schema :=
  match schema.table? table.name with
  | some _ => .ok schema
  | none =>
      if schema.hasIndex table.name then
        .error (indexNamed table.name)
      else .ok { schema with tables := schema.tables ++ [table] }

/-- Makes an index unless there is one of its name. Its columns must be in the table. -/
def createIndex (schema : Schema) (name table : String) (columns : List String) :
    Result Schema :=
  match schema.table? table with
  | none => .error (fault ("no such table: main." ++ table))
  | some found =>
      if (schema.table? name).isSome then
        .error (fault ("there is already a table named " ++ name))
      else if schema.hasIndex name then .ok schema
      else
        match columns.find? fun column => !found.hasColumn column with
        | some column => .error (fault ("no such column: " ++ column))
        | none => .ok { schema with indexes := schema.indexes ++ [name] }

/-- Adds a column unless the table has one of just this name. -/
def addColumn (schema : Schema) (table column : String) : Result Schema :=
  match schema.table? table with
  | none => .error (fault ("no such table: " ++ table))
  | some found =>
      if found.columns.contains column then .ok schema
      else if found.hasColumn column then .error (fault ("duplicate column name: " ++ column))
      else
        .ok
          { schema with
            tables := schema.tables.map fun other =>
              if sameIgnoringCase table other.name then
                { other with columns := other.columns ++ [column] }
              else other }

def change (schema : Schema) : SchemaChange → Result Schema
  | .createTable table => schema.createTable table
  | .createIndex name table columns => schema.createIndex name table columns
  | .addColumn table column => schema.addColumn table column

/-- Carries out changes up to the first that fails. What the others did before it remains. -/
def changeAll : List SchemaChange → Schema → Result Unit × Schema
  | [], schema => (.ok (), schema)
  | change :: rest, schema =>
      match schema.change change with
      | .ok changed => changeAll rest changed
      | .error failure => (.error failure, schema)

end Schema

namespace Catalogue

/-- A store in which nothing was made yet. -/
def empty : Catalogue := ⟨none, .empty⟩

def versions (catalogue : Catalogue) : List Int := (catalogue.recorded.getD []).mergeSort

def isRecorded (catalogue : Catalogue) (version : Int) : Bool :=
  (catalogue.recorded.getD []).contains version

def record (catalogue : Catalogue) (version : Int) : Catalogue :=
  { catalogue with recorded := some (catalogue.recorded.getD [] ++ [version]) }

/-- Carries out a migration and records it, unless it is recorded already, and says whether it did.
A failure leaves the changes before it. -/
def attempt (catalogue : Catalogue) (migration : Migration) : Result Bool × Catalogue :=
  if catalogue.isRecorded migration.version then (.ok false, catalogue)
  else
    match catalogue.schema.changeAll migration.changes with
    | (.ok (), schema) => (.ok true, { catalogue with schema := schema }.record migration.version)
    | (.error failure, schema) => (.error failure, { catalogue with schema := schema })

/-- Attempts a migration in a transaction, which is rolled back after a failure. -/
def apply (catalogue : Catalogue) (migration : Migration) : Result Bool × Catalogue :=
  match catalogue.attempt migration with
  | (.ok applied, changed) => (.ok applied, changed)
  | (.error failure, _) => (.error failure, catalogue)

/-- Applies migrations one after the other up to the first that fails. -/
def applyAll : List Migration → Catalogue → Result Unit × Catalogue
  | [], catalogue => (.ok (), catalogue)
  | migration :: rest, catalogue =>
      match catalogue.apply migration with
      | (.ok _, changed) => applyAll rest changed
      | (.error failure, changed) => (.error failure, changed)

def toJson (catalogue : Catalogue) : Json :=
  let texts (values : List String) : Json := .array (values.mergeSort.map .string)
  let columns (name : String) : Json :=
    texts (((catalogue.schema.table? name).map Table.columns).getD [])
  .object
    [("applied", .array (catalogue.versions.map .ofInt)), ("messages", columns "messages"),
     ("sessions", columns "sessions"), ("indexes", texts catalogue.schema.indexes)]

def withRecords (catalogue : Catalogue) : Catalogue :=
  { catalogue with recorded := some (catalogue.recorded.getD []) }

/-- Makes the table of records unless there is one. -/
def keepRecords (catalogue : Catalogue) : Result Catalogue :=
  if catalogue.recorded.isNone && catalogue.schema.hasIndex recordsName then
    .error (Schema.indexNamed recordsName)
  else .ok catalogue.withRecords

/-- The migrations that are not recorded. -/
def pending (catalogue : Catalogue) : List Migration :=
  migrations.filter fun migration => !catalogue.isRecorded migration.version

/-- Brings the schema up to date. -/
def migrate (catalogue : Catalogue) : Result Unit × Catalogue :=
  match catalogue.keepRecords with
  | .ok catalogue => applyAll catalogue.pending catalogue
  | .error failure => (.error failure, catalogue)

end Catalogue

end LiveChat.Store
