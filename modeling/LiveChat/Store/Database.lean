import LiveChat.Config.Settings
import LiveChat.Store.Connection
import LiveChat.Store.MessageLog
import LiveChat.Store.Schema
import LiveChat.Store.Sessions

/-!
# The database

A database is opened at a path, with its schema brought up to date, and closed in the end. One that
is ephemeral starts without the rows of an earlier run and leaves nothing behind. Once it is closed
every query fails, after a look at its arguments.
-/

namespace LiveChat.Store

open LiveChat.Config

structure Tables where
  catalogue : Catalogue
  log : MessageLog
  sessions : SessionTable
  /-- The cache size for new connections; zero stands for none. -/
  cacheSize : Int
deriving DecidableEq, Repr

def Tables.empty : Tables := ⟨.empty, .empty, .empty, 0⟩

inductive StoreSite where
  | absent
  /-- A file stands where a directory is needed. -/
  | blocked
  | directory
  /-- A file that is no database. -/
  | foreign
  | store (tables : Tables)
deriving DecidableEq, Repr

namespace StoreSite

def removed : StoreSite → StoreSite
  | .foreign => .absent
  | .store _ => .absent
  | other => other

def makeDirectory : StoreSite → Result Unit
  | .blocked => .error (.io "File exists (os error 17)")
  | _ => .ok ()

/-- The longest time that a connection can wait, in milliseconds. -/
def longestWait : Nat := Nat.pow 2 31 - 1

/-- What a connection with a time to wait finds at the site. -/
def connect (busyTimeout : Nat) : StoreSite → Result Tables
  | .absent => wait.map fun _ => .empty
  | .store tables => wait.map fun _ => tables
  | .foreign => wait.bind fun _ =>
      .error (.database "error returned from database: (code: 26) file is not a database")
  | _ =>
      .error (.database "error returned from database: (code: 14) unable to open database file")
where
  /-- A wait that is too long breaks the connection. -/
  wait : Result Unit :=
    if longestWait < busyTimeout then
      .error (.database "attempted to communicate with a crashed background worker")
    else .ok ()

end StoreSite

/-- An open database, or one that was open. -/
structure Database where
  path : String
  ephemeral : Bool
  connection : Connection
  isClosed : Bool
  tables : Tables
deriving DecidableEq, Repr

namespace Database

def migrated (connection : Connection) (tables : Tables) : Result (Connection × Tables) := do
  let (outcome, catalogue) := tables.catalogue.migrate
  if catalogue ≠ tables.catalogue then connection.checkRoom
  outcome
  let isFresh := catalogue ≠ tables.catalogue || connection.stale
  let connection := if isFresh then connection.rearranged else connection
  return (connection, { tables with catalogue := catalogue, cacheSize := connection.keptCacheSize })

/-- Opens the database that the settings describe. `fallback` is the path of an ephemeral database
for which none is set. -/
def openAt (storage : StorageSettings) (fallback : String) (site : StoreSite) :
    Result Database := do
  let path ← storage.resolvedPath fallback
  site.makeDirectory
  let ephemeral := storage.mode = .ephemeral
  let site := if ephemeral then site.removed else site
  let pragmas ← storage.extraPragmas
  let tables ← site.connect storage.busyTimeoutMs
  let connection ← (Connection.initial storage.busyTimeoutMs tables.cacheSize).setAll pragmas
  let (connection, tables) ← migrated connection tables
  return {
    path := path
    ephemeral := ephemeral
    connection := connection
    isClosed := false
    tables := tables }

def unopened (path : String) : Database := ⟨path, false, .initial 0 0, true, .empty⟩

def closeConnections (database : Database) : Database := { database with isClosed := true }

/-- Closes the database, and says what stands in its place afterwards. -/
def close (database : Database) : StoreSite :=
  if database.ephemeral then .absent else .store database.tables

/-- A closed database answers no query. -/
def ready (database : Database) : Result Unit :=
  if database.isClosed then
    .error (.database "attempted to acquire a connection on a closed pool")
  else .ok ()

/-- Changes need a connection that allows them. -/
def writable (database : Database) : Result Unit := do
  database.ready
  database.connection.checkWritable

def withLog (database : Database) (log : MessageLog) : Database :=
  { database with tables := { database.tables with log := log } }

def withSessions (database : Database) (sessions : SessionTable) : Database :=
  { database with tables := { database.tables with sessions := sessions } }

def insert (database : Database) (entry : LogEntry) : Result Database := do
  database.writable
  return database.withLog (← database.tables.log.insert entry)

def insertMessage (database : Database) (message : StoredMessage) : Result Database :=
  database.insert (.ofMessage message)

/-- Adds messages one after the other; one that cannot be added is left out. -/
def insertEach (database : Database) : List StoredMessage → List (Result Unit) × Database
  | [] => ([], database)
  | message :: rest =>
      let (outcome, database) : Result Unit × Database :=
        match database.insertMessage message with
        | .ok changed => (.ok (), changed)
        | .error failure => (.error failure, database)
      let (outcomes, database) := database.insertEach rest
      (outcome :: outcomes, database)

def recent (database : Database) (query : RecentQuery) : Result (List StoredMessage) := do
  query.check
  database.ready
  let rows := database.tables.log.newestRows query
  database.connection.checkColumn "ts" rows
  messagesOf rows

def tailHead (database : Database) : Result Position := do
  database.ready
  database.connection.checkColumn "ts" database.tables.log.rows
  return database.tables.log.tailHead

def tailNext (database : Database) (after : Position) (limit : Int) : Result TailBatch := do
  checkBatchLimit limit
  database.ready
  let rows := database.tables.log.rowsAfter after limit.toNat
  database.connection.checkColumn "ts" rows
  TailBatch.ofRows after rows

/-- The batches behind a position up to the first that is empty, and the failure that ended the scan
if there was one. Each batch holds a row of its own, so that there are at most as many as rows. -/
def scanFrom (database : Database) (after : Position) (limit : Int) :
    List TailBatch × Option Failure :=
  go (database.tables.log.count + 1) after
where
  /-- At most a number of batches. -/
  go : Nat → Position → List TailBatch × Option Failure
    | 0, _ => ([], none)
    | fuel + 1, after =>
        match database.tailNext after limit with
        | .error failure => ([], some failure)
        | .ok batch =>
            if batch.messages = [] then ([], none)
            else
              let (batches, failure) := go fuel batch.last
              (batch :: batches, failure)

def count (database : Database) : Result Nat := do
  database.ready
  return database.tables.log.count

def purgeBefore (database : Database) (cutoff : Int) : Result (Nat × Database) := do
  database.writable
  let (removed, log) := database.tables.log.purgeBefore cutoff
  return (removed, database.withLog log)

/-- Removes all messages and gives back their room. -/
def purgeAll (database : Database) : Result (Nat × Database) := do
  database.writable
  let (removed, log) := database.tables.log.purgeAll
  return (removed,
    { database.withLog log with connection := database.connection.rearranged })

def versions (database : Database) : Result (List Int) := do
  database.ready
  return database.tables.catalogue.versions

def pragma (database : Database) (name : String) : Result (Option Int) := do
  database.ready
  return database.connection.get? name

def getSession (database : Database) (token : String) : Result Session := do
  database.ready
  database.connection.checkColumn "token_expiry" (database.tables.sessions.find? token).toList
  database.tables.sessions.get token

/-- Files a session at a point in time in milliseconds, and reads it back. A session that cannot be
read back is filed all the same. -/
def upsertSession (database : Database) (token service dataJson : String) (expiry : Option Int)
    (now : Int) : Result Session × Database :=
  match (SessionTable.checkToken token).bind fun _ => database.writable with
  | .error failure => (.error failure, database)
  | .ok _ =>
      let (session, sessions) := database.tables.sessions.upsert token service dataJson expiry now
      let found := database.connection.checkColumn "token_expiry" (sessions.find? token).toList
      (found.bind fun _ => session, database.withSessions sessions)

def deleteSession (database : Database) (token : String) : Result Database := do
  database.writable
  return database.withSessions (database.tables.sessions.delete token)

def latestSession (database : Database) : Result (Option Session) := do
  database.ready
  database.connection.checkColumn "token_expiry" database.tables.sessions.rows
  database.tables.sessions.latest

def latestSessionOf (database : Database) (service : String) : Result (Option Session) := do
  database.ready
  database.connection.checkColumn "token_expiry" (database.tables.sessions.rowsOf service)
  database.tables.sessions.latestOf service

def purgeSessions (database : Database) (now : Int) : Result (Nat × Database) := do
  database.writable
  let (removed, sessions) := database.tables.sessions.purgeExpired now
  return (removed, database.withSessions sessions)

end Database

end LiveChat.Store
