import LiveChat.Error
import LiveChat.Time.Timestamp

/-!
# Sessions

A session is a piece of data under a token, which belongs to a service and may expire. A token is
filed once: setting it again changes the session in place, with a new time of change but the row
number that it had.
-/

namespace LiveChat.Store

open LiveChat.Text LiveChat.Time

structure Session where
  token : String
  service : String
  dataJson : String
  tokenExpiry : Option Timestamp
  updatedAt : Timestamp
deriving DecidableEq, Repr

structure SessionRow where
  rowId : Nat
  token : String
  service : String
  dataJson : String
  expiry : Option Int
  updatedAt : Int
deriving DecidableEq, Repr

def timeOfMillis (millis : Int) : Result Timestamp :=
  match Timestamp.ofMillis? millis with
  | some time => .ok time
  | none =>
      .error (.internal ("timestamp " ++ String.ofList (signedDecimal millis) ++ " out of range"))

namespace SessionRow

def toSession (row : SessionRow) : Result Session := do
  let expiry ← row.expiry.mapM timeOfMillis
  let updatedAt ← timeOfMillis row.updatedAt
  return ⟨row.token, row.service, row.dataJson, expiry, updatedAt⟩

/-- Changed later than another row; among equal times the larger row number counts as later. -/
def isLater (row other : SessionRow) : Bool :=
  other.updatedAt < row.updatedAt ||
    (other.updatedAt == row.updatedAt && other.rowId < row.rowId)

def isExpired (now : Int) (row : SessionRow) : Bool := row.expiry.any (· ≤ now)

end SessionRow

structure SessionTable where
  rows : List SessionRow
deriving DecidableEq, Repr

namespace SessionTable

def empty : SessionTable := ⟨[]⟩

def nextRowId (table : SessionTable) : Nat := (table.rows.map SessionRow.rowId).foldl max 0 + 1

def find? (table : SessionTable) (token : String) : Option SessionRow :=
  table.rows.find? fun row => row.token == token

def get (table : SessionTable) (token : String) : Result Session :=
  match table.find? token with
  | some row => row.toSession
  | none => .error (.notFound ("session " ++ token))

/-- A session has a token. -/
def checkToken (token : String) : Result Unit :=
  if token = "" then .error (.invalidInput "session token must not be empty") else .ok ()

def put (table : SessionTable) (token service dataJson : String) (expiry : Option Int) (now : Int) :
    SessionTable :=
  match table.find? token with
  | some _ =>
      ⟨table.rows.map fun row =>
        if row.token = token then
          { row with service := service, dataJson := dataJson, expiry := expiry, updatedAt := now }
        else row⟩
  | none => ⟨table.rows ++ [⟨table.nextRowId, token, service, dataJson, expiry, now⟩]⟩

def upsert (table : SessionTable) (token service dataJson : String) (expiry : Option Int)
    (now : Int) : Result Session × SessionTable :=
  match checkToken token with
  | .error failure => (.error failure, table)
  | .ok _ =>
      let table := table.put token service dataJson expiry now
      (table.get token, table)

def delete (table : SessionTable) (token : String) : SessionTable :=
  ⟨table.rows.filter fun row => row.token != token⟩

def latestRow? : List SessionRow → Option SessionRow
  | [] => none
  | row :: rest =>
      match latestRow? rest with
      | some other => if other.isLater row then some other else some row
      | none => some row

def latest (table : SessionTable) : Result (Option Session) :=
  (latestRow? table.rows).mapM SessionRow.toSession

def rowsOf (table : SessionTable) (service : String) : List SessionRow :=
  table.rows.filter fun row => row.service == service

def latestOf (table : SessionTable) (service : String) : Result (Option Session) :=
  (latestRow? (table.rowsOf service)).mapM SessionRow.toSession

/-- Removes the sessions that have expired, and says how many there were. -/
def purgeExpired (table : SessionTable) (now : Int) : Nat × SessionTable :=
  (table.rows.countP (SessionRow.isExpired now),
    ⟨table.rows.filter fun row => !row.isExpired now⟩)

end SessionTable

end LiveChat.Store
