import LiveChat.Time.Timestamp
import LiveChat.Json.Printer

/-!
# Stored messages and positions in the log

A stored message is a chat message as a row of columns. Its place in the log is the pair of its
timestamp in milliseconds and its row number, in lexicographic order.
-/

namespace LiveChat.Store

open LiveChat.Json LiveChat.Time

structure StoredMessage where
  id : String
  timestamp : Timestamp
  username : String
  platform : String
  text : String
  emotesJson : String
  badgesJson : String
  rawJson : String
deriving DecidableEq, Repr

namespace StoredMessage

/-- An empty row under an id, at a point in time cut to milliseconds. -/
def new (id : String) (time : Timestamp) : StoredMessage :=
  ⟨id, time.truncated, "", "", "", "[]", "[]", ""⟩

def toJson (row : StoredMessage) : Json :=
  .object
    [("id", .string row.id), ("timestamp", row.timestamp.toJson),
     ("username", .string row.username), ("platform", .string row.platform),
     ("text", .string row.text),
     ("emotes_json", .string row.emotesJson), ("badges_json", .string row.badgesJson),
     ("raw_json", .string row.rawJson)]

def fields : List (RecordField StoredMessage) :=
  [ ⟨["id"], true, fun row found => return { row with id := ← found.asString }⟩,
    ⟨["timestamp"], true, fun row found =>
      return { row with timestamp := ← Timestamp.decode found }⟩,
    ⟨["username"], true, fun row found => return { row with username := ← found.asString }⟩,
    ⟨["platform"], true, fun row found => return { row with platform := ← found.asString }⟩,
    ⟨["text"], true, fun row found => return { row with text := ← found.asString }⟩,
    ⟨["emotes_json"], true, fun row found => return { row with emotesJson := ← found.asString }⟩,
    ⟨["badges_json"], true, fun row found => return { row with badgesJson := ← found.asString }⟩,
    ⟨["raw_json"], true, fun row found => return { row with rawJson := ← found.asString }⟩ ]

def decode : Outline → Decoded StoredMessage :=
  decodeRecord .json "struct StoredMessage" fields (new "" ⟨0, 0⟩)

end StoredMessage

/-- A place in the log. The pair of zeros stands for no place at all. -/
structure Position where
  ts : Int
  rowId : Int
deriving DecidableEq, Repr

namespace Position

def origin : Position := ⟨0, 0⟩

def isUnset (position : Position) : Bool := position.ts == 0 && position.rowId == 0

def before (left right : Position) : Bool :=
  left.ts < right.ts || (left.ts == right.ts && left.rowId < right.rowId)

def toJson (position : Position) : Json :=
  .object [("ts", .ofInt position.ts), ("row_id", .ofInt position.rowId)]

/-- A signed number of 64 bits. -/
def decodeNumber : Outline → Decoded Int :=
  Outline.asInteger (-Nat.pow 2 63) (Nat.pow 2 63 - 1) "i64"

def fields : List (RecordField Position) :=
  [ ⟨["ts"], true, fun position found => return { position with ts := ← decodeNumber found }⟩,
    ⟨["row_id"], true, fun position found =>
      return { position with rowId := ← decodeNumber found }⟩ ]

def decode : Outline → Decoded Position := decodeRecord .json "struct TailPosition" fields origin

end Position

end LiveChat.Store
