import LiveChat.Proofs.Chat.Records

/-!
# Payloads are read back

Viewers receive a message as a JSON text. Each record in it is read back from its JSON as it was,
with the defaults in the place of the fields that are not written (`Image.decode_toJson`,
`Badge.decode_toJson`, `Fragment.decode_toJson`). So the text says all of the message, and its
fragments, emotes and badges are arrays in it (`ChatMessage.payload_says_message`). Lists of records
and of texts are read back alike (`decodeText_list`).
-/

namespace LiveChat.Chat

open LiveChat.Json

theorem Image.decode_toJson (image : Image) : decode image.toJson.outline = .ok image := by
  obtain ⟨id, url, width, height⟩ := image
  cases width <;> cases height <;>
    simp [decode, fields, decodeRecord, RecordField.putEntries, RecordField.name, toJson,
      sizeField, outline, outlineFields, Outline.asString, asOption_decodeSize, empty, Functor.map,
      Except.map]

theorem Emote.decode_toJson (emote : Emote) : decode emote.toJson.outline = .ok emote := by
  have images := Outline.asList_map Image.decode_toJson emote.images
  have read (location : String) : (Json.string location).outline.asString = .ok location := rfl
  have locations := Outline.asList_map read emote.locations
  simp [decode, fields, decodeRecord, RecordField.putEntries, RecordField.name, toJson, outline,
    outlineFields, Outline.asString, empty, Functor.map, Except.map, images, locations]

theorem Badge.decode_toJson (badge : Badge) : decode badge.toJson.outline = .ok badge := by
  obtain ⟨id, version⟩ := badge
  by_cases unversioned : version = "" <;>
    simp [decode, fields, decodeRecord, RecordField.putEntries, RecordField.name, toJson,
      unversioned, outline, outlineFields, Outline.asString, Functor.map, Except.map]

theorem FragmentKind.decode_label (kind : FragmentKind) :
    decode (.string (some kind.label)) = .ok kind := by
  cases kind <;> decide +kernel

theorem Fragment.decode_toJson (fragment : Fragment) :
    decode fragment.toJson.outline = .ok fragment := by
  obtain ⟨kind, text, emote⟩ := fragment
  have label := kind.decode_label
  cases emote with
  | none =>
      simp [decode, fields, decodeRecord, RecordField.putEntries, RecordField.name, toJson, outline,
        outlineFields, Outline.asString, Functor.map, Except.map, label]
  | some emote =>
      have picture : emote.toJson.outline.asOption Emote.decode = .ok (some emote) := by
        change (Emote.decode emote.toJson.outline).map some = _
        rw [emote.decode_toJson]
        rfl
      simp [decode, fields, decodeRecord, RecordField.putEntries, RecordField.name, toJson, outline,
        outlineFields, Outline.asString, Functor.map, Except.map, label, picture]

theorem ChatMessage.decode_toJson (message : ChatMessage) :
    decode message.toJson.outline = .ok message := by
  have fragments := Outline.asList_map Fragment.decode_toJson message.fragments
  have emotes := Outline.asList_map Emote.decode_toJson message.emotes
  have badges := Outline.asList_map Badge.decode_toJson message.badges
  simp [decode, fields, decodeRecord, RecordField.putEntries, RecordField.name, toJson,
    Platform.toJson, Platform.decode, Platform.ofLabel_label, outline, outlineFields,
    Outline.asString, empty, Functor.map, Except.map, fragments, emotes, badges]

theorem decodeText_list {α : Type} {decode : Outline → Decoded α} {write : α → Json}
    (exact : ∀ item, IsExact (write item)) (back : ∀ item, decode (write item).outline = .ok item)
    (items : List α) :
    decodeText (Outline.asList decode) (Json.array (items.map write)).text = .ok items := by
  rw [decodeText, (IsExact.array_map exact items).read?_text]
  exact Outline.asList_map back items

namespace ChatMessage

theorem decodeText_payload (message : ChatMessage) : ofPayload message.payload = .ok message := by
  rw [ofPayload, decodeText, payload, message.isExact_toJson.read?_text]
  exact message.decode_toJson

/-- **The payload says the message.** A message is read back from its payload, whatever its texts
and whatever is left out. The payload is an object with seven fields, and fragments, emotes and
badges are arrays in it. -/
theorem payload_says_message (message : ChatMessage) :
    ofPayload message.payload = .ok message ∧
    Outline.read? message.payload = some (.object
      [(some "author", .string (some message.author)),
       (some "message", .string (some message.message)),
       (some "fragments", .array (message.fragments.map fun part => part.toJson.outline)),
       (some "emotes", .array (message.emotes.map fun emote => emote.toJson.outline)),
       (some "badges", .array (message.badges.map fun badge => badge.toJson.outline)),
       (some "source", .string (some message.source.label)),
       (some "colour", .string (some message.colour))]) := by
  have items {α : Type} (write : α → Json) (all : List α) :
      outlineItems (all.map write) = all.map fun item => (write item).outline := by
    induction all with
    | nil => rfl
    | cons item rest ih => rw [List.map_cons, outlineItems, ih, List.map_cons]
  refine ⟨message.decodeText_payload, ?_⟩
  rw [payload, message.isExact_toJson.read?_text, toJson, outline]
  simp only [outlineFields, outline, items, Platform.toJson]

end ChatMessage

end LiveChat.Chat
