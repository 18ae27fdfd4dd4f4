import LiveChat.Error
import LiveChat.Store.Row

/-!
# The message log

Rows are added with a number of their own, one more than the largest present, and only purges remove
them. All scans go by position, which is the pair of timestamp and row number. Other programs write
to the log too, so a row may lack an id or bear a timestamp that the clock does not cover; such a
timestamp makes every scan that meets it fail.
-/

namespace LiveChat.Store

open LiveChat.Text LiveChat.Time

structure LogEntry where
  id : Option String
  /-- Milliseconds since 1970. -/
  ts : Option Int
  username : String
  platform : String
  text : String
  emotesJson : String
  badgesJson : String
  rawJson : String
deriving DecidableEq, Repr

namespace LogEntry

def ofMessage (message : StoredMessage) : LogEntry where
  id := some message.id
  ts := some message.timestamp.toMillis
  username := message.username
  platform := message.platform
  text := message.text
  emotesJson := message.emotesJson
  badgesJson := message.badgesJson
  rawJson := message.rawJson

/-- A row by a writer that leaves all columns but three to the store. -/
def bare (id : Option String) (ts : Option Int) (text : String) : LogEntry :=
  ⟨id, ts, "", "", text, "[]", "[]", ""⟩

end LogEntry

structure LogRow where
  rowId : Nat
  id : Option String
  ts : Int
  username : String
  platform : String
  text : String
  emotesJson : String
  badgesJson : String
  rawJson : String
deriving DecidableEq, Repr

namespace LogRow

def ofEntry (entry : LogEntry) (rowId : Nat) (ts : Int) : LogRow where
  rowId := rowId
  id := entry.id
  ts := ts
  username := entry.username
  platform := entry.platform
  text := entry.text
  emotesJson := entry.emotesJson
  badgesJson := entry.badgesJson
  rawJson := entry.rawJson

def position (row : LogRow) : Position := ⟨row.ts, row.rowId⟩

/-- The message of a row. A missing id reads as the empty one. -/
def toMessage (row : LogRow) : Result StoredMessage :=
  match Timestamp.ofMillis? row.ts with
  | none =>
      .error (.internal ("timestamp " ++ String.ofList (signedDecimal row.ts) ++ " out of range"))
  | some timestamp =>
      .ok
        { id := row.id.getD ""
          timestamp := timestamp
          username := row.username
          platform := row.platform
          text := row.text
          emotesJson := row.emotesJson
          badgesJson := row.badgesJson
          rawJson := row.rawJson }

end LogRow

/-- Which of the newest rows are wanted. -/
structure RecentQuery where
  /-- The greatest number of rows; zero stands for all. -/
  limit : Int
  /-- Rows from this millisecond on. -/
  since : Option Int
  /-- Rows before this millisecond. -/
  before : Option Int
deriving DecidableEq, Repr

namespace RecentQuery

def latest (limit : Nat) : RecentQuery := ⟨limit, none, none⟩

/-- A limit is not negative, and only one bound is given. -/
def check (query : RecentQuery) : Result Unit :=
  if query.limit < 0 then
    .error (.invalidInput
      ("limit must not be negative (got " ++ String.ofList (signedDecimal query.limit) ++ ")"))
  else if query.since.isSome ∧ query.before.isSome then
    .error (.invalidInput "since and before are mutually exclusive")
  else .ok ()

/-- A row within the bounds. -/
def admits (query : RecentQuery) (row : LogRow) : Bool :=
  query.since.all (· ≤ row.ts) && query.before.all (row.ts < ·)

end RecentQuery

/-- The limit of a forward scan is positive. -/
def checkBatchLimit (limit : Int) : Result Unit :=
  if limit ≤ 0 then
    .error (.invalidInput ("tail batch limit must be positive (got " ++
      String.ofList (signedDecimal limit) ++ ")"))
  else .ok ()

/-- The rows of one forward scan, and the position at which the next one goes on. -/
structure TailBatch where
  messages : List StoredMessage
  last : Position
deriving DecidableEq, Repr

def messagesOf (rows : List LogRow) : Result (List StoredMessage) := rows.mapM LogRow.toMessage

/-- The batch of the rows behind a position. An empty batch leaves the position as it is. -/
def TailBatch.ofRows (after : Position) (rows : List LogRow) : Result TailBatch := do
  let messages ← messagesOf rows
  return ⟨messages, (rows.getLast?.map LogRow.position).getD after⟩

structure MessageLog where
  /-- In the order in which they were added. -/
  rows : List LogRow
  /-- A row is numbered beyond all rows before it. -/
  numbered : rows.Pairwise fun earlier later => earlier.rowId < later.rowId
  /-- Rows that have an id have different ones. -/
  keyed : rows.Pairwise fun earlier later => earlier.id ≠ none → earlier.id ≠ later.id
deriving DecidableEq, Repr

namespace MessageLog

def empty : MessageLog := ⟨[], .nil, .nil⟩

def nextRowId (log : MessageLog) : Nat := (log.rows.map LogRow.rowId).foldl max 0 + 1

def hasId (log : MessageLog) (id : String) : Bool := log.rows.any fun row => row.id == some id

theorem le_foldl_max (numbers : List Nat) (start : Nat) :
    start ≤ numbers.foldl max start ∧ ∀ number ∈ numbers, number ≤ numbers.foldl max start := by
  induction numbers generalizing start with
  | nil => exact ⟨Nat.le_refl _, by simp⟩
  | cons first rest ih =>
      obtain ⟨below, bounded⟩ := ih (max start first)
      refine ⟨Nat.le_trans (Nat.le_max_left _ _) below, ?_⟩
      intro number member
      cases member with
      | head => exact Nat.le_trans (Nat.le_max_right _ _) below
      | tail _ member => exact bounded number member

/-- The next number is beyond the numbers in use. -/
theorem rowId_lt_nextRowId (log : MessageLog) (row : LogRow) (member : row ∈ log.rows) :
    row.rowId < log.nextRowId :=
  Nat.lt_succ_of_le ((le_foldl_max _ 0).2 _ (List.mem_map_of_mem member))

/-- A row with an id that is not present differs by it from the rows that are. -/
theorem id_ne_of_not_hasId (log : MessageLog) (id : Option String)
    (absent : ¬ id.any log.hasId) (row : LogRow) (member : row ∈ log.rows)
    (given : row.id ≠ none) : row.id ≠ id := by
  intro same
  cases id with
  | none => exact given same
  | some id => exact absent (List.any_eq_true.mpr ⟨row, member, by simp [same]⟩)

def append (log : MessageLog) (row : LogRow)
    (beyond : ∀ earlier ∈ log.rows, earlier.rowId < row.rowId)
    (fresh : ∀ earlier ∈ log.rows, earlier.id ≠ none → earlier.id ≠ row.id) : MessageLog where
  rows := log.rows ++ [row]
  numbered := List.pairwise_append.mpr
    ⟨log.numbered, List.pairwise_singleton _ _, by simpa using beyond⟩
  keyed := List.pairwise_append.mpr
    ⟨log.keyed, List.pairwise_singleton _ _, by simpa using fresh⟩

def keep (log : MessageLog) (test : LogRow → Bool) : MessageLog where
  rows := log.rows.filter test
  numbered := log.numbered.filter _
  keyed := log.keyed.filter _

/-- Adds a row. Its timestamp must be given, and its id must be new if it is given. -/
def insert (log : MessageLog) (entry : LogEntry) : Result MessageLog :=
  match entry.ts with
  | none =>
      .error (.database
        "error returned from database: (code: 1299) NOT NULL constraint failed: messages.ts")
  | some ts =>
      if present : entry.id.any log.hasId then
        .error (.database
          "error returned from database: (code: 1555) UNIQUE constraint failed: messages.id")
      else
        .ok (log.append (.ofEntry entry log.nextRowId ts) log.rowId_lt_nextRowId
          (log.id_ne_of_not_hasId entry.id present))

def insertMessage (log : MessageLog) (message : StoredMessage) : Result MessageLog :=
  log.insert (.ofMessage message)

/-- Puts a row in front of the first one that has a later position. -/
def placeRow (row : LogRow) : List LogRow → List LogRow
  | [] => [row]
  | first :: rest =>
      if row.position.before first.position then row :: first :: rest
      else first :: placeRow row rest

/-- The rows in the order of their positions. -/
def ordered (log : MessageLog) : List LogRow := log.rows.foldr placeRow []

/-- The first rows of a list, or all of them where the limit is zero. -/
def upTo {α : Type} (limit : Nat) (rows : List α) : List α :=
  if limit = 0 then rows else rows.take limit

/-- The newest rows, the newest first. -/
def newestRows (log : MessageLog) (query : RecentQuery) : List LogRow :=
  upTo query.limit.toNat (log.ordered.reverse.filter query.admits)

/-- The newest messages, the newest first. -/
def recent (log : MessageLog) (query : RecentQuery) : Result (List StoredMessage) := do
  query.check
  messagesOf (log.newestRows query)

/-- The position of the newest row, and the origin where there is none. -/
def tailHead (log : MessageLog) : Position :=
  (log.ordered.getLast?.map LogRow.position).getD .origin

/-- The first rows behind a position, the oldest first. -/
def rowsAfter (log : MessageLog) (after : Position) (limit : Nat) : List LogRow :=
  (log.ordered.filter fun row => after.before row.position).take limit

def tailNext (log : MessageLog) (after : Position) (limit : Int) : Result TailBatch := do
  checkBatchLimit limit
  TailBatch.ofRows after (log.rowsAfter after limit.toNat)

def count (log : MessageLog) : Nat := log.rows.length

/-- Removes the rows before a millisecond, and says how many there were. -/
def purgeBefore (log : MessageLog) (cutoff : Int) : Nat × MessageLog :=
  (log.rows.countP fun row => row.ts < cutoff, log.keep fun row => !(row.ts < cutoff))

/-- Removes all rows, and says how many there were. -/
def purgeAll (log : MessageLog) : Nat × MessageLog := (log.count, empty)

end MessageLog

end LiveChat.Store
