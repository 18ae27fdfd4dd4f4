import LiveChat.Chat.Enrichment
import LiveChat.Proofs.Chat.Payload
import LiveChat.Serve.Frame

/-!
# Frames say their messages

A frame is the payload itself or an object that holds it as a text. So the payload can be read off
the frame (`wireFrame_injective`, `read?_envelope`), and the message off the payload
(`frame_says_message`). The label of a payload is that of its message, whatever the texts in it say
(`sourceLabel?_payload`), and a viewer with a filter is sent the messages of one platform
(`framesFor_payloads`).
-/

namespace LiveChat.Serve

open LiveChat.Chat LiveChat.Json LiveChat.Text

/-- The object that an envelope is. -/
theorem read?_envelope (payload : String) :
    Json.read? (wireFrame payload true) =
      some (.object [("data", .string payload), ("type", .string "chat")]) := by
  have exact : IsExact (.object [("data", .string payload), ("type", .string "chat")]) := by
    refine .object fun field member => ?_
    simp only [List.mem_cons, List.not_mem_nil, or_false] at member
    rcases member with rfl | rfl <;> exact .string _
  rw [wireFrame, if_pos rfl, Json.read?, exact.read?_text, Option.bind_some]
  simp only [outline, outlineFields, maxDepth, Outline.value?, Outline.fieldValues?,
    Option.map_some, Option.pure_def, Option.bind_eq_bind, Option.bind_some, ofFields, sortFields,
    List.foldl_cons, List.foldl_nil, setField, String.reduceEq, String.reduceLT, reduceIte]

/-- Different payloads have different frames. -/
theorem wireFrame_injective (envelope : Bool) : Function.Injective (wireFrame · envelope) := by
  intro first second same
  cases envelope with
  | false => exact same
  | true =>
      have read := congrArg Json.read? same
      simpa [read?_envelope] using read

/-- The text of an object is no keepalive. -/
theorem text_object_ne_keepalive (fields : List (String × Json)) :
    (Json.object fields).text ≠ keepalive := by
  intro same
  have first := congrArg (fun text : String => text.toList.head?) same
  rw [Json.text, String.toList_ofList] at first
  cases fields <;> simp [print, keepalive] at first

/-- Only the field of the message itself is its label. -/
theorem sourceLabel?_payload (message : ChatMessage) :
    sourceLabel? message.payload = some message.source.label := by
  rw [sourceLabel?, decodeText, ChatMessage.payload, message.isExact_toJson.read?_text]
  simp [decodeRecord, RecordField.putEntries, RecordField.name, ChatMessage.toJson,
    Platform.toJson, outline, outlineFields, Outline.asString]

theorem matchesSource_payload (message : ChatMessage) (filter : Option String) :
    matchesSource message.payload filter =
      filter.all fun label => sameIgnoringCase label message.source.label := by
  cases filter with
  | none => rfl
  | some label => rw [matchesSource, sourceLabel?_payload, Option.any_some, Option.all_some]

/-- A viewer is sent the messages that its filter names, all of them if it has none. -/
theorem framesFor_payloads (filter : Option String) (envelope : Bool)
    (messages : List ChatMessage) :
    framesFor filter envelope (messages.map ChatMessage.payload) =
      (messages.filter fun message =>
        filter.all fun label => sameIgnoringCase label message.source.label).map
        fun message => wireFrame message.payload envelope := by
  simp only [framesFor, List.filter_map, List.map_map, Function.comp_def, matchesSource_payload]

theorem wireFrame_ne_keepalive (message : ChatMessage) (envelope : Bool) :
    wireFrame message.payload envelope ≠ keepalive := by
  cases envelope <;> exact text_object_ne_keepalive _

/-- **A frame says its message.** A payload is the whole of the bare frame and the only text of the
envelope besides its type, and the message is read back from it. No frame is a keepalive, and no two
payloads have the same frame. A filter passes the payload if it is the label of the platform up to
the case of ASCII letters, and only then. -/
theorem frame_says_message (message : ChatMessage) (envelope : Bool) (filter : String) :
    let payload := (EnrichedMessage.ofMessage message).payloadJson
    ChatMessage.ofPayload (wireFrame payload false) = .ok message ∧
      Json.read? (wireFrame payload true) =
        some (.object [("data", .string payload), ("type", .string "chat")]) ∧
      ChatMessage.ofPayload payload = .ok message ∧
      wireFrame payload envelope ≠ keepalive ∧
      Function.Injective (wireFrame · envelope) ∧
      (matchesSource payload (some filter) = true ↔
        filter.toList.map Char.toLower = message.source.label.toList.map Char.toLower) := by
  refine ⟨message.decodeText_payload, read?_envelope _, message.decodeText_payload,
    wireFrame_ne_keepalive message envelope, wireFrame_injective envelope, ?_⟩
  change matchesSource message.payload (some filter) = true ↔ _
  rw [matchesSource_payload, Option.all_some, sameIgnoringCase, beq_iff_eq]

end LiveChat.Serve
