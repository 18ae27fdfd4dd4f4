import LiveChat.Chat.Message
import LiveChat.Proofs.Chat.Badges
import LiveChat.Proofs.Json.ReadBack

/-!
# Records in JSON

The JSON of a message holds no other numbers than sizes of images, so its text can be read back
(`ChatMessage.isExact_toJson`). Read as an incoming message it gives the same author, text, source
and colour (`IncomingMessage.decode_toJson`), and attached values from which its emotes and badges
are read again (`IncomingMessage.readEmotes_ofMessage`, `IncomingMessage.readBadges_ofMessage`).
-/

namespace LiveChat

namespace Json

theorem IsExact.array_map {α : Type} {write : α → Json} (each : ∀ item, IsExact (write item))
    (items : List α) : IsExact (.array (items.map write)) := by
  refine .array fun value among => ?_
  obtain ⟨item, -, rfl⟩ := List.mem_map.mp among
  exact each item

namespace Outline

theorem itemValues?_map {α : Type} {limit : Nat} {write meant : α → Json}
    (each : ∀ item, (write item).outline.value? limit = some (meant item)) (items : List α) :
    itemValues? limit (outlineItems (items.map write)) = some (items.map meant) := by
  induction items with
  | nil => rfl
  | cons item items ih =>
      simp only [List.map_cons, outlineItems, itemValues?, each, ih, Option.bind_eq_bind,
        Option.bind_some]
      rfl

theorem asList_map {α : Type} {decode : Outline → Decoded α} {write : α → Json}
    (back : ∀ item, decode (write item).outline = .ok item) (items : List α) :
    (Outline.array (outlineItems (items.map write))).asList decode = .ok items := by
  induction items with
  | nil => rfl
  | cons item items ih =>
      simp only [asList, List.map_cons, outlineItems, List.mapM_cons, back] at ih ⊢
      simp only [ih]
      rfl

end Outline

end Json

namespace Chat

open LiveChat.Json LiveChat.Text

namespace Image

theorem isExact_sizeField {name : String} {size : Option UInt32} {field : String × Json}
    (member : field ∈ sizeField name size) : IsExact field.2 := by
  cases size with
  | none => cases member
  | some size =>
      rw [sizeField, List.mem_singleton] at member
      subst member
      have bound := size.toNat_lt
      refine .integer ⟨?_, ?_⟩ <;> omega

theorem isExact_toJson (image : Image) : IsExact image.toJson := by
  refine .object fun field member => ?_
  rcases List.mem_append.mp member with member | height
  · rcases List.mem_append.mp member with text | width
    · simp only [List.mem_cons, List.not_mem_nil, or_false] at text
      rcases text with rfl | rfl <;> exact .string _
    · exact isExact_sizeField width
  · exact isExact_sizeField height

/-- The JSON of an image with its fields in ascending order. -/
def sortedJson (image : Image) : Json :=
  .object (sizeField "height" image.height ++
    [("id", .string image.id), ("url", .string image.url)] ++ sizeField "width" image.width)

theorem value?_toJson (image : Image) (limit : Nat) :
    image.toJson.outline.value? (limit + 1) = some image.sortedJson := by
  obtain ⟨id, url, width, height⟩ := image
  cases width <;> cases height <;>
    simp only [toJson, sortedJson, sizeField, ofNat, List.cons_append, List.nil_append,
      List.append_nil, outline, outlineFields, Outline.value?, Outline.fieldValues?,
      Option.map_some, Option.pure_def, Option.bind_eq_bind, Option.bind_some, ofFields, sortFields,
      List.foldl_cons, List.foldl_nil, setField, String.reduceEq, String.reduceLT, reduceIte]

theorem asOption_decodeSize (size : UInt32) :
    (ofNat size.toNat).outline.asOption decodeSize = .ok (some size) := by
  have bound := size.toNat_lt
  have inside : (0 : Int) ≤ size.toNat ∧ (size.toNat : Int) ≤ (UInt32.size : Int) - 1 := by
    rw [UInt32.size]
    omega
  simp only [ofNat, outline, Outline.asOption, decodeSize, Outline.asNatural, Outline.asInteger,
    if_pos inside, Except.map, Int.toNat_natCast, UInt32.ofNat_toNat]

theorem decode_sortedJson (image : Image) : decode image.sortedJson.outline = .ok image := by
  obtain ⟨id, url, width, height⟩ := image
  cases width <;> cases height <;>
    simp [decode, fields, decodeRecord, RecordField.putEntries, RecordField.name, sortedJson,
      sizeField, outline, outlineFields, Outline.asString, asOption_decodeSize, empty, Functor.map,
      Except.map]

end Image

namespace Emote

theorem isExact_toJson (emote : Emote) : IsExact emote.toJson := by
  refine .object fun field member => ?_
  simp only [List.mem_cons, List.not_mem_nil, or_false] at member
  rcases member with rfl | rfl | rfl | rfl
  · exact .string _
  · exact .string _
  · exact .array_map .string _
  · exact .array_map Image.isExact_toJson _

/-- The JSON of an emote with the fields of all its objects in ascending order. -/
def sortedJson (emote : Emote) : Json :=
  .object
    [("id", .string emote.id), ("images", .array (emote.images.map Image.sortedJson)),
     ("locations", .array (emote.locations.map .string)), ("name", .string emote.name)]

theorem value?_toJson (emote : Emote) (limit : Nat) :
    emote.toJson.outline.value? (limit + 3) = some emote.sortedJson := by
  have images := Outline.itemValues?_map (fun image : Image => image.value?_toJson limit)
    emote.images
  have read (location : String) :
      (Json.string location).outline.value? (limit + 1) = some (.string location) := rfl
  have locations := Outline.itemValues?_map read emote.locations
  simp only [toJson, sortedJson, outline, outlineFields, Outline.value?, Outline.fieldValues?,
    Option.map_some, Option.pure_def, Option.bind_eq_bind, Option.bind_some, images, locations,
    ofFields, sortFields, List.foldl_cons, List.foldl_nil, setField, String.reduceEq,
    String.reduceLT, reduceIte]

theorem decode_sortedJson (emote : Emote) : decode emote.sortedJson.outline = .ok emote := by
  have images := Outline.asList_map Image.decode_sortedJson emote.images
  have read (location : String) : (Json.string location).outline.asString = .ok location := rfl
  have locations := Outline.asList_map read emote.locations
  simp [decode, fields, decodeRecord, RecordField.putEntries, RecordField.name, sortedJson, outline,
    outlineFields, Outline.asString, empty, Functor.map, Except.map, images, locations]

theorem readEmote?_sortedJson {emote : Emote} (named : isBlankText emote.name = false) :
    IncomingMessage.readEmote? emote.sortedJson = some emote := by
  simp [IncomingMessage.readEmote?, decode_sortedJson, named]

end Emote

namespace Badge

theorem isExact_toJson (badge : Badge) : IsExact badge.toJson := by
  refine .object fun field member => ?_
  rcases List.mem_cons.mp member with rfl | version
  · exact .string _
  · split at version
    · cases version
    · rw [List.mem_singleton.mp version]
      exact .string _

theorem value?_toJson (badge : Badge) (limit : Nat) :
    badge.toJson.outline.value? (limit + 1) = some badge.toJson := by
  by_cases unversioned : badge.version = "" <;>
    simp only [toJson, unversioned, outline, outlineFields, Outline.value?, Outline.fieldValues?,
      Option.map_some, Option.pure_def, Option.bind_eq_bind, Option.bind_some, ofFields, sortFields,
      List.foldl_cons, List.foldl_nil, setField, String.reduceEq, String.reduceLT, reduceIte]

end Badge

theorem Platform.ofLabel_label (source : Platform) : ofLabel source.label = source := by
  cases source <;> decide +kernel

theorem Fragment.isExact_toJson (fragment : Fragment) : IsExact fragment.toJson := by
  refine .object fun field member => ?_
  rcases List.mem_append.mp member with text | emote
  · simp only [List.mem_cons, List.not_mem_nil, or_false] at text
    rcases text with rfl | rfl <;> exact .string _
  · split at emote
    · cases emote
    · rw [List.mem_singleton.mp emote]
      exact Emote.isExact_toJson _

/-- Every number in a message is the size of an image. -/
theorem ChatMessage.isExact_toJson (message : ChatMessage) : IsExact message.toJson := by
  refine .object fun field member => ?_
  simp only [List.mem_cons, List.not_mem_nil, or_false] at member
  rcases member with rfl | rfl | rfl | rfl | rfl | rfl | rfl
  · exact .string _
  · exact .string _
  · exact .array_map Fragment.isExact_toJson _
  · exact .array_map Emote.isExact_toJson _
  · exact .array_map Badge.isExact_toJson _
  · exact .string _
  · exact .string _

namespace IncomingMessage

/-- What the JSON of a message says to the reader of incoming messages. -/
def ofMessage (message : ChatMessage) : IncomingMessage where
  author := some message.author
  message := some message.message
  source := some message.source.label
  colour := some message.colour
  emotes := .array (message.emotes.map Emote.sortedJson)
  badges := .array (message.badges.map Badge.toJson)

/-- **Sent messages.** A message that was sent can be taken in again. -/
theorem decode_toJson (message : ChatMessage) :
    decode message.toJson.outline = .ok (ofMessage message) := by
  have emotes := Outline.itemValues?_map (fun emote : Emote => emote.value?_toJson 122)
    message.emotes
  have badges := Outline.itemValues?_map (fun badge : Badge => badge.value?_toJson 124)
    message.badges
  simp [decode, fields, decodeRecord, RecordField.putEntries, RecordField.name, ofMessage,
    ChatMessage.toJson, Platform.toJson, outline, outlineFields, Outline.asOption, Outline.asString,
    decodeAttached, Outline.asValue, Outline.value?, maxDepth, emotes, badges, empty, Functor.map,
    Except.map]

theorem decodeText_payload (message : ChatMessage) :
    decodeText decode message.payload = .ok (ofMessage message) := by
  rw [decodeText, ChatMessage.payload, message.isExact_toJson.read?_text]
  exact decode_toJson message

theorem readEach_map {α : Type} {read? : Json → Option α} {write : α → Json} {items : List α}
    (back : ∀ item ∈ items, read? (write item) = some item) :
    readEach read? (.array (items.map write)) = items := by
  induction items with
  | nil => rfl
  | cons item items ih =>
      have later := ih fun other member => back other (List.mem_cons_of_mem _ member)
      rw [readEach] at later ⊢
      rw [List.map_cons, List.filterMap_cons_some (back item List.mem_cons_self), later]

theorem exists_of_mem_readEach {α : Type} {read? : Json → Option α} {value : Json} {item : α}
    (member : item ∈ readEach read? value) : ∃ part, read? part = some item := by
  unfold readEach at member
  split at member
  · obtain ⟨part, -, read⟩ := List.mem_filterMap.mp member
    exact ⟨part, read⟩
  · cases member

theorem named_of_mem_readEmotes {incoming : IncomingMessage} {emote : Emote}
    (member : emote ∈ incoming.readEmotes) : isBlankText emote.name = false := by
  obtain ⟨part, read⟩ := exists_of_mem_readEach member
  unfold readEmote? at read
  split at read
  · rename_i found decoded
    split at read
    · cases read
    · rename_i named
      cases read
      exact Bool.eq_false_iff.mpr named
  · cases read

theorem isTidy_of_mem_readBadges {incoming : IncomingMessage} {badge : Badge}
    (member : badge ∈ incoming.readBadges) : badge.IsTidy := by
  obtain ⟨part, read⟩ := exists_of_mem_readEach member
  exact Badge.isTidy_of_ofJson? read

theorem readEmotes_ofMessage {message : ChatMessage}
    (named : ∀ emote ∈ message.emotes, isBlankText emote.name = false) :
    (ofMessage message).readEmotes = message.emotes :=
  readEach_map fun emote member => Emote.readEmote?_sortedJson (named emote member)

theorem readBadges_ofMessage {message : ChatMessage}
    (tidy : ∀ badge ∈ message.badges, badge.IsTidy) :
    (ofMessage message).readBadges = message.badges :=
  readEach_map fun badge member => Badge.ofJson?_toJson (tidy badge member)

end IncomingMessage

end Chat

end LiveChat
