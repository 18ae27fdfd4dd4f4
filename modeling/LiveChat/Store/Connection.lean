import LiveChat.Error
import LiveChat.Store.Pragma

/-!
# The settings of a connection

A connection to the store is opened with fixed settings, and the operator's further settings are
made on top of them. The store refuses a setting that it cannot read and the few that it does not
allow. Otherwise a value that does not suit its setting stands for the usual one, and a setting
without a place here has no visible effect.
-/

namespace LiveChat.Store

open LiveChat.Text

structure Connection where
  cacheSize : Int
  /-- The cache size that the store keeps for later connections; zero stands for none. -/
  keptCacheSize : Int
  tempStore : Int
  foreignKeys : Int
  synchronous : Int
  /-- In milliseconds. -/
  busyTimeout : Int
  readOnly : Bool
  /-- The store may not grow beyond this number of pages. -/
  pageLimit : Option Nat
  /-- Results name a column together with its table, so that no column is found. -/
  fullNames : Bool
  /-- The store is going to be arranged anew. -/
  stale : Bool
deriving DecidableEq, Repr

def usualCacheSize : Int := -2000

/-- The settings that a new connection gets. -/
def Connection.initial (busyTimeout : Nat) (keptCacheSize : Int) : Connection where
  cacheSize := if keptCacheSize = 0 then usualCacheSize else keptCacheSize
  keptCacheSize := keptCacheSize
  tempStore := 0
  foreignKeys := 1
  synchronous := 1
  busyTimeout := busyTimeout
  readOnly := false
  pageLimit := none
  fullNames := false
  stale := false

def safetyLevel (value : List Char) : Nat :=
  if value.head?.any Char.isDigit then (Pragma.integer32 value).toNat % 256
  else
    match asciiLower (String.ofList value) with
    | "on" => 1
    | "yes" => 1
    | "true" => 1
    | "off" => 0
    | "no" => 0
    | "false" => 0
    | "full" => 2
    | "extra" => 3
    | _ => 1

def isOn (value : List Char) : Bool :=
  if value.head?.any Char.isDigit then safetyLevel value != 0
  else ["on", "yes", "true"].contains (asciiLower (String.ofList value))

def tempStoreOf (value : List Char) : Int :=
  match value with
  | '0' :: _ => 0
  | '1' :: _ => 1
  | '2' :: _ => 2
  | _ =>
      match asciiLower (String.ofList value) with
      | "file" => 1
      | "memory" => 2
      | _ => 0

def encodings : List String := ["utf8", "utf16", "utf16le", "utf16be"]

def schemaTables : List String :=
  ["sqlite_master", "sqlite_schema", "sqlite_temp_master", "sqlite_temp_schema"]

/-- The settings that are kept in the store itself. -/
def keptSettings : List String :=
  ["application_id", "default_cache_size", "incremental_vacuum", "schema_version", "user_version"]

/-- The settings that need the store as it is now. -/
def lookingSettings : List String :=
  ["default_cache_size", "incremental_vacuum", "integrity_check", "max_page_count", "page_count",
   "quick_check", "table_info", "table_list", "table_xinfo"]

/-- A number, whatever its sign, that can bound the report of a check. -/
def isReportLength (value : List Char) : Bool :=
  match value with
  | '-' :: digits => (Pragma.integer32? digits).isSome
  | digits => (Pragma.integer32? digits).isSome

namespace Connection

def allows (connection : Connection) (key : String) (value : List Char) : Bool :=
  let word := asciiLower (String.ofList value)
  if connection.readOnly && keptSettings.contains key then false
  else
    match key with
    | "encoding" => encodings.contains word
    | "foreign_key_check" => schemaTables.contains word
    | "integrity_check" => isReportLength value || schemaTables.contains word
    | "quick_check" => isReportLength value || schemaTables.contains word
    | "temp_store_directory" => false
    | _ => true

/-- The connection after its store was arranged anew. A cache size of zero does not outlast that. -/
def rearranged (connection : Connection) : Connection :=
  let usual := if connection.keptCacheSize = 0 then usualCacheSize else connection.keptCacheSize
  { connection with
    cacheSize := if connection.cacheSize = 0 then usual else connection.cacheSize
    stale := false }

def change (connection : Connection) (key : String) (value : List Char) : Connection :=
  let number := Pragma.integer32 value
  match key with
  | "cache_size" => { connection with cacheSize := number }
  | "default_cache_size" =>
      let size : Int := min number.natAbs (Nat.pow 2 31 - 1)
      { connection with cacheSize := size, keptCacheSize := size }
  | "temp_store" => { connection with tempStore := tempStoreOf value }
  | "foreign_keys" => { connection with foreignKeys := if isOn value then 1 else 0 }
  | "synchronous" =>
      let level := (safetyLevel value + 1) % 8
      { connection with synchronous := (if level = 0 then 1 else level : Nat) - 1 }
  | "busy_timeout" => { connection with busyTimeout := max number 0 }
  | "query_only" => { connection with readOnly := isOn value }
  | "max_page_count" =>
      { connection with pageLimit := (Pragma.positive64? value).or connection.pageLimit }
  | "full_column_names" => { connection with fullNames := isOn value }
  | "schema_version" => { connection with stale := true }
  | "writable_schema" =>
      if asciiLower (String.ofList value) = "reset" then connection.rearranged else connection
  | _ => connection

def set? (connection : Connection) (key value : String) : Option Connection :=
  if !Pragma.isName key then none
  else
    match Pragma.value? value with
    | none => none
    | some value =>
        let key := asciiLower key
        let looks := connection.stale && lookingSettings.contains key
        let current := if looks then connection.rearranged else connection
        if current.allows key value then some (current.change key value) else none

/-- Makes settings one after the other. A connection without all of them is given up, and nobody
gets it. -/
def setAll (connection : Connection) (settings : List (String × String)) : Result Connection :=
  match settings.foldlM (fun connection setting => connection.set? setting.1 setting.2)
      connection with
  | some connection => .ok connection
  | none => .error (.database "pool timed out while waiting for an open connection")

/-- Changes need a connection that is not only for reading. -/
def checkWritable (connection : Connection) : Result Unit :=
  if connection.readOnly then
    .error (.database
      "error returned from database: (code: 8) attempt to write a readonly database")
  else .ok ()

/-- The number of pages that the tables and indexes of a new store take. -/
def schemaPages : Nat := 8

/-- A new store needs room for its tables and indexes. -/
def checkRoom (connection : Connection) : Result Unit := do
  connection.checkWritable
  if connection.pageLimit.any (· < schemaPages) then
    .error (.database "error returned from database: (code: 13) database or disk is full")
  else .ok ()

/-- The rows of a result, of which a column is looked up by its name. -/
def checkColumn {α : Type} (connection : Connection) (column : String) (rows : List α) :
    Result Unit :=
  if connection.fullNames && !rows.isEmpty then
    .error (.database ("no column found for name: " ++ column))
  else .ok ()

/-- Reads a setting back, in any case of letters. -/
def get? (connection : Connection) (name : String) : Option Int :=
  match asciiLower name with
  | "cache_size" => some connection.cacheSize
  | "temp_store" => some connection.tempStore
  | "foreign_keys" => some connection.foreignKeys
  | "synchronous" => some connection.synchronous
  | "busy_timeout" => some connection.busyTimeout
  | _ => none

end Connection

end LiveChat.Store
