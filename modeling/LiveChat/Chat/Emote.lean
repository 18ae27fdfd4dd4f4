import LiveChat.Json.Decode

/-!
# Emotes

An emote is a named picture that replaces its name in a message. All its fields may be missing in
JSON; sizes of images are left out of the text where they are not known.
-/

namespace LiveChat.Chat

open LiveChat.Json

/-- A picture of an emote, with its size below `2 ^ 32` in both directions. -/
structure Image where
  id : String
  url : String
  width : Option UInt32
  height : Option UInt32
deriving DecidableEq, Repr

structure Emote where
  id : String
  name : String
  locations : List String
  images : List Image
deriving DecidableEq, Repr

namespace Image

def empty : Image := ⟨"", "", none, none⟩

def sizeField (name : String) : Option UInt32 → List (String × Json)
  | none => []
  | some size => [(name, .ofNat size.toNat)]

def toJson (image : Image) : Json :=
  .object ([("id", .string image.id), ("url", .string image.url)] ++
    sizeField "width" image.width ++ sizeField "height" image.height)

def decodeSize (found : Outline) : Decoded UInt32 :=
  (found.asNatural UInt32.size "u32").map UInt32.ofNat

def fields : List (RecordField Image) :=
  [ ⟨["id"], false, fun image found => return { image with id := ← found.asString }⟩,
    ⟨["url"], false, fun image found => return { image with url := ← found.asString }⟩,
    ⟨["width"], false, fun image found =>
      return { image with width := ← found.asOption decodeSize }⟩,
    ⟨["height"], false, fun image found =>
      return { image with height := ← found.asOption decodeSize }⟩ ]

def decode : Outline → Decoded Image := decodeRecord .json "struct Image" fields empty

end Image

namespace Emote

def empty : Emote := ⟨"", "", [], []⟩

def toJson (emote : Emote) : Json :=
  .object
    [("id", .string emote.id), ("name", .string emote.name),
     ("locations", .array (emote.locations.map .string)),
     ("images", .array (emote.images.map Image.toJson))]

def fields : List (RecordField Emote) :=
  [ ⟨["id"], false, fun emote found => return { emote with id := ← found.asString }⟩,
    ⟨["name"], false, fun emote found => return { emote with name := ← found.asString }⟩,
    ⟨["locations"], false, fun emote found =>
      return { emote with locations := ← found.asList Outline.asString }⟩,
    ⟨["images"], false, fun emote found =>
      return { emote with images := ← found.asList Image.decode }⟩ ]

def decode : Outline → Decoded Emote := decodeRecord .json "struct Emote" fields empty

end Emote

end LiveChat.Chat
