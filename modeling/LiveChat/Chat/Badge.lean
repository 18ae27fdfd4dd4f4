import LiveChat.Json.Decode
import LiveChat.Text.Blank

/-!
# Badges

A badge has an id and perhaps a version. Senders write it in many ways: as a shorthand `id/version`
or as an object under one of several names. `Badge.ofJson?` reads all of them; `Badge.decode` reads
only the form in which a badge is sent on.
-/

namespace LiveChat.Chat

open LiveChat.Text LiveChat.Json

structure Badge where
  id : String
  /-- Empty where the badge has no versions. -/
  version : String
deriving DecidableEq, Repr

namespace Badge

/-- The names under which a sender may give the id, the preferred one first. -/
def idKeys : List String := ["id", "badge_id", "name", "slug", "_id"]

def versionKeys : List String := ["version", "badge_version"]

/-- The text of a field that holds a string or a number. -/
def scalarText? (found : Option Json) : Option String :=
  match found with
  | some (.string text) => some (trimmed text)
  | some (.number value) => some (String.ofList value.text)
  | _ => none

/-- The first text under one of the names that is not empty. -/
def firstScalar (value : Json) (keys : List String) : String :=
  ((keys.filterMap fun key => scalarText? (value.get? key)).find? fun text => text != "").getD ""

/-- Reads a shorthand: what stands before the first slash is the id, the rest the version. -/
def ofShorthand (text : String) : Badge :=
  let raw := trim text.toList
  match splitOnce '/' raw with
  | some (id, version) => ⟨String.ofList (trim id), String.ofList (trim version)⟩
  | none => ⟨String.ofList raw, ""⟩

/-- Reads a badge in any form that senders use. There is none without an id. -/
def ofJson? (value : Json) : Option Badge :=
  let found :=
    match value with
    | .string text => some (ofShorthand text)
    | .object _ => some ⟨firstScalar value idKeys, firstScalar value versionKeys⟩
    | _ => none
  found.filter fun badge => badge.id != ""

def shorthand (badge : Badge) : String :=
  if badge.version = "" then badge.id else badge.id ++ "/" ++ badge.version

def toJson (badge : Badge) : Json :=
  .object
    (("id", .string badge.id) ::
      if badge.version = "" then [] else [("version", .string badge.version)])

def fields : List (RecordField Badge) :=
  [ ⟨["id"], true, fun badge found => return { badge with id := ← found.asString }⟩,
    ⟨["version"], false, fun badge found => return { badge with version := ← found.asString }⟩ ]

def decode : Outline → Decoded Badge := decodeRecord .json "struct Badge" fields ⟨"", ""⟩

end Badge

end LiveChat.Chat
