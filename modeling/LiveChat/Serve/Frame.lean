import LiveChat.Json.Decode
import LiveChat.Json.Printer

/-!
# Frames for viewers

A payload goes to a viewer as it is or inside an envelope. A viewer may ask for the messages of one
platform only; a payload of which the platform cannot be read is not among them.
-/

namespace LiveChat.Serve

open LiveChat.Json LiveChat.Text

def keepalive : String := "__keepalive__"

def wireFrame (payload : String) (envelope : Bool) : String :=
  if envelope then (Json.object [("data", .string payload), ("type", .string "chat")]).text
  else payload

/-- The platform label of a payload, empty where none is given. -/
def sourceLabel? (payload : String) : Option String :=
  let field : RecordField String := ⟨["source"], false, fun _ found => found.asString⟩
  match decodeText (decodeRecord .json "struct SourceField" [field] "") payload with
  | .ok label => some label
  | .error _ => none

/-- Whether a payload is for a viewer with a filter. -/
def matchesSource (payload : String) (filter : Option String) : Bool :=
  match filter with
  | none => true
  | some label => (sourceLabel? payload).any (sameIgnoringCase label)

def framesFor (filter : Option String) (envelope : Bool) (payloads : List String) : List String :=
  (payloads.filter fun payload => matchesSource payload filter).map fun payload =>
    wireFrame payload envelope

end LiveChat.Serve
