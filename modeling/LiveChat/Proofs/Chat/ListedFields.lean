import LiveChat.Proofs.Chat.Replay
import LiveChat.Proofs.Ingest.Streams
import LiveChat.Proofs.Json.Values

/-!
# Messages that list their fields

A line is read as a message by a decoder of records, and a record may also be written as an array of
its fields. So an array with no more items than a message has fields, of which the first four are
texts or null, passes for a message (`IncomingMessage.decode_array`). Every other value that is no
object is dropped as malformed and changes nothing (`Enricher.non_object_is_dropped_iff`). The lines
of a harvester are looked at first by a reader that lets through nothing but objects.
-/

namespace LiveChat

namespace Json

/-- What a field for a text can be given as. -/
def isTextOrNull : Json → Bool
  | .null => true
  | .string _ => true
  | _ => false

theorem asOption_asString {value : Json} (suits : value.isTextOrNull = true) :
    value.outline.asOption Outline.asString = .ok value.string? := by
  cases value with
  | null => rfl
  | string text => rfl
  | _ => cases suits

theorem isTextOrNull_of_asOption {value : Json} {text : Option String}
    (read : value.outline.asOption Outline.asString = .ok text) : value.isTextOrNull = true := by
  cases value with
  | null => rfl
  | string text => rfl
  | _ => cases read

/-- A record is read from an array of which each item suits the field at its place, and which has no
item behind the last field. -/
theorem RecordField.putItems_eq_ok {ρ : Type} {dialect : Dialect} {title : String} {count : Nat}
    {fields : List (RecordField ρ)} {items : List Outline} {record result : ρ}
    (strict : dialect.spareItems = false)
    (done : putItems dialect title count fields items record = .ok result) :
    items.length ≤ fields.length ∧
      ∀ pair ∈ fields.zip items, ∃ before after, pair.1.put before pair.2 = .ok after := by
  induction fields generalizing items record with
  | nil =>
      cases items with
      | nil => exact ⟨Nat.le_refl _, fun _ member => nomatch member⟩
      | cons item items =>
          rw [putItems, strict] at done
          cases done
  | cons field fields ih =>
      cases items with
      | nil => exact ⟨Nat.zero_le _, fun _ member => nomatch member⟩
      | cons item items =>
          rw [putItems] at done
          split at done
          · cases done
          · rename_i next put
            obtain ⟨fewer, each⟩ := ih done
            refine ⟨Nat.succ_le_succ fewer, fun pair member => ?_⟩
            rcases List.mem_cons.mp member with rfl | later
            · exact ⟨record, next, put⟩
            · exact each pair later

end Json

namespace Chat

open LiveChat.Text LiveChat.Json LiveChat.Time LiveChat.Ingest

namespace IncomingMessage

/-- The items of an array that passes for a message: author, text, source and colour, emotes and
badges, as many of them as there are. -/
def listsFields (items : List Json) : Bool :=
  items.length ≤ fields.length && (items.take 4).all isTextOrNull

/-- The message of such an array. -/
def ofItems (items : List Json) : IncomingMessage where
  author := items[0]?.bind string?
  message := items[1]?.bind string?
  source := items[2]?.bind string?
  colour := items[3]?.bind string?
  emotes := items[4]?.getD .null
  badges := items[5]?.getD .null

theorem asOption_of_put {field : RecordField IncomingMessage} {before after : IncomingMessage}
    {found : Outline} (among : field ∈ fields.take 4) (put : field.put before found = .ok after) :
    ∃ text, found.asOption Outline.asString = .ok text := by
  cases read : found.asOption Outline.asString with
  | ok text => exact ⟨text, rfl⟩
  | error fault =>
      simp only [fields, List.take_succ_cons, List.take_zero, List.mem_cons, List.not_mem_nil,
        or_false] at among
      rcases among with rfl | rfl | rfl | rfl
      all_goals
        dsimp only at put
        rw [read] at put
        cases put

/-- What is decoded lists its fields. -/
theorem listsFields_of_decode {items : List Json} {incoming : IncomingMessage}
    (read : decode (Json.array items).outline = .ok incoming) : listsFields items = true := by
  obtain ⟨fewer, each⟩ := RecordField.putItems_eq_ok rfl read
  rw [outlineItems_eq_map] at fewer each
  rw [List.length_map] at fewer
  rw [listsFields, Bool.and_eq_true, decide_eq_true_eq, List.all_eq_true]
  refine ⟨fewer, fun item member => ?_⟩
  have listed : item.outline ∈
      ((fields.take 4).zip ((items.map outline).take 4)).map Prod.snd := by
    rw [List.map_snd_zip (List.length_take_le 4 _), ← List.map_take]
    exact List.mem_map_of_mem member
  obtain ⟨⟨field, found⟩, pair, same⟩ := List.mem_map.mp listed
  obtain rfl : found = item.outline := same
  have among : field ∈ fields.take 4 := (List.of_mem_zip pair).1
  rw [List.zip, ← List.take_zipWith] at pair
  obtain ⟨before, after, put⟩ := each _ (List.mem_of_mem_take pair)
  obtain ⟨text, read⟩ := asOption_of_put among put
  exact isTextOrNull_of_asOption read

theorem decode_of_listsFields {items : List Json} (lists : listsFields items = true)
    (shallow : ∀ item ∈ items, item.outline.value? (maxDepth - 1) = some item) :
    decode (Json.array items).outline = .ok (ofItems items) := by
  have attached (item : Json) (member : item ∈ items) : decodeAttached item.outline = .ok item := by
    rw [decodeAttached, Outline.asValue, shallow item member]
  rw [listsFields, Bool.and_eq_true, decide_eq_true_eq] at lists
  obtain ⟨fewer, texts⟩ := lists
  change items.length ≤ 6 at fewer
  rcases items with _ | ⟨author, _ | ⟨message, _ | ⟨source, _ | ⟨colour, _ | ⟨emotes, _ | ⟨badges,
    _ | ⟨spare, rest⟩⟩⟩⟩⟩⟩⟩
  case cons.cons.cons.cons.cons.cons.cons =>
    simp only [List.length_cons] at fewer
    omega
  case nil => rfl
  all_goals
    simp only [List.take_succ_cons, List.take_zero, List.take_nil, List.all_cons, List.all_nil,
      Bool.and_eq_true, Bool.and_true] at texts
    simp [decode, fields, decodeRecord, RecordField.putItems, outline, outlineItems, ofItems, empty,
      asOption_asString, attached, texts, Functor.map, Except.map]

/-- **Arrays as messages.** An array whose parts have values of their own is decoded just when it
lists the fields of a message. -/
theorem decode_array {items : List Json}
    (shallow : ∀ item ∈ items, item.outline.value? (maxDepth - 1) = some item) :
    (listsFields items = true → decode (Json.array items).outline = .ok (ofItems items)) ∧
      (listsFields items = false → ∃ fault, decode (Json.array items).outline = .error fault) := by
  refine ⟨fun lists => decode_of_listsFields lists shallow, fun other => ?_⟩
  cases read : decode (Json.array items).outline with
  | error fault => exact ⟨fault, rfl⟩
  | ok incoming =>
      rw [listsFields_of_decode read] at other
      cases other

/-- Texts, numbers, truth values and null are no records. -/
theorem decode_scalar {value : Json} (noObject : ∀ fields, value ≠ .object fields)
    (noArray : ∀ items, value ≠ .array items) : ∃ fault, decode value.outline = .error fault := by
  cases value with
  | array items => exact absurd rfl (noArray items)
  | object fields => exact absurd rfl (noObject fields)
  | _ => exact ⟨_, rfl⟩

end IncomingMessage

namespace Enricher

variable {enricher live : Enricher} {incoming : IncomingMessage} {origin : Option Platform}
  {commands : Bool} {now : Duration}

/-- What is decoded is not malformed. -/
theorem enrich_ne_malformed (fault : DecodeError) :
    enricher.enrich incoming origin commands now ≠ (.error (.malformed fault), live) := by
  unfold enrich
  dsimp only
  split <;> rintro ⟨⟩

/-- **Only objects are messages, and arrays that list the fields of one.** The value of a line that
is no object is never delivered by a harvester. As a message it is dropped as malformed, without any
effect, if and only if it is no array or does not list the fields of a message. An array that does is
taken for the message of these fields, which is let through unless it is blank. -/
theorem non_object_is_dropped_iff {line : String} {value : Json}
    (read : Json.read? line = some value) (noObject : ∀ fields, value ≠ .object fields) :
    enricher.enrichLine line origin now = enricher.enrichValue value origin now ∧
    (∀ bytes : List UInt8, line.toUTF8 = ⟨bytes.toArray⟩ → objectOf? bytes = none) ∧
    ((∃ fault, enricher.enrichValue value origin now = (.error (.malformed fault), enricher)) ↔
      ∀ items, value = .array items → IncomingMessage.listsFields items = false) ∧
    ∀ items, value = .array items → IncomingMessage.listsFields items = true →
      enricher.enrichValue value origin now =
          enricher.enrich (.ofItems items) origin true now ∧
        (enricher.enrichValue value origin now).1.isOk =
          !(draft enricher.options (.ofItems items) origin).isBlank := by
  have listed (items : List Json) (array : value = .array items)
      (lists : IncomingMessage.listsFields items = true) :
      enricher.enrichValue value origin now = enricher.enrich (.ofItems items) origin true now := by
    obtain rfl := array
    have decoded := IncomingMessage.decode_of_listsFields lists (shallow_of_read? read)
    simp only [enrichValue, decoded]
  have dropped (fault : DecodeError) (refused : IncomingMessage.decode value.outline = .error fault) :
      enricher.enrichValue value origin now = (.error (.malformed fault), enricher) := by
    simp only [enrichValue, refused]
  refine ⟨?_, fun bytes spelled => ?_, ⟨?_, fun other => ?_⟩, fun items array lists => ?_⟩
  · simp only [enrichLine, read]
  · by_contra found
    obtain ⟨delivered, object⟩ := Option.ne_none_iff_exists'.mp found
    obtain ⟨text, fields, same, again, -⟩ := objectOf?_eq_some.mp object
    obtain rfl := String.toByteArray_inj.mp (spelled.trans same.symm)
    exact noObject fields (Option.some.inj (read.symm.trans again))
  · rintro ⟨fault, malformed⟩ items array
    by_contra lists
    rw [listed items array (Bool.eq_true_of_not_eq_false lists)] at malformed
    exact enrich_ne_malformed fault malformed
  · by_cases array : ∃ items, value = .array items
    · obtain ⟨items, rfl⟩ := array
      obtain ⟨fault, refused⟩ :=
        (IncomingMessage.decode_array (shallow_of_read? read)).2 (other items rfl)
      exact ⟨fault, dropped fault refused⟩
    · obtain ⟨fault, refused⟩ :=
        IncomingMessage.decode_scalar noObject fun items same => array ⟨items, same⟩
      exact ⟨fault, dropped fault refused⟩
  · rw [listed items array lists]
    exact ⟨rfl, isOk_enrich ..⟩

theorem non_object_is_dropped_iff_numbers :
    Json.read? "[1,2]" = some (.array [.ofNat 1, .ofNat 2]) ∧
      (∀ fields, Json.array [.ofNat 1, .ofNat 2] ≠ .object fields) ∧
      ∃ fault, newcomer.enrichValue (.array [.ofNat 1, .ofNat 2]) none 0 =
        (.error (.malformed fault), newcomer) := by
  have read : Json.read? "[1,2]" = some (.array [.ofNat 1, .ofNat 2]) := by
    have written : (Json.array [.ofNat 1, .ofNat 2]).text = "[1,2]" := by decide +kernel
    rw [← written]
    refine IsNormal.read?_text (.array ?_) (.array ?_)
    · exact List.forall_mem_cons.mpr ⟨.number _, List.forall_mem_singleton.mpr (.number _)⟩
    · have fits (digit : Fin 10) : FitsNumeral digit.val := ⟨by omega, by omega⟩
      exact List.forall_mem_cons.mpr
        ⟨.integer (fits 1), List.forall_mem_singleton.mpr (.integer (fits 2))⟩
  have noObject (fields : List (String × Json)) :
      Json.array [.ofNat 1, .ofNat 2] ≠ .object fields := by rintro ⟨⟩
  refine ⟨read, noObject, (non_object_is_dropped_iff read noObject).2.2.1.mpr ?_⟩
  rintro items ⟨⟩
  rfl

/-- **An array is taken for a message.** It lists an author and a text, and is let through with
both. -/
theorem listed_fields_are_taken :
    Json.read? "[\"a\",\"b\"]" = some (.array [.string "a", .string "b"]) ∧
      ∃ message live, newcomer.enrichLine "[\"a\",\"b\"]" (some .kick) 0 = (.ok message, live) ∧
        message.message.author = "a" ∧ message.message.message = "b" := by
  have read : Json.read? "[\"a\",\"b\"]" = some (.array [.string "a", .string "b"]) := by
    have written : (Json.array [.string "a", .string "b"]).text = "[\"a\",\"b\"]" := by
      decide +kernel
    rw [← written]
    refine IsNormal.read?_text (.array ?_) (.array ?_)
    all_goals exact List.forall_mem_cons.mpr ⟨.string _, List.forall_mem_singleton.mpr (.string _)⟩
  have outcome :
      (newcomer.enrichValue (.array [.string "a", .string "b"]) (some .kick) 0).1.toOption.map
          (fun message => (message.message.author, message.message.message)) =
        some ("a", "b") := by
    decide +kernel
  obtain ⟨message, live, taken, told⟩ := exists_taken outcome
  obtain ⟨author, text⟩ := Prod.mk.inj told
  refine ⟨read, message, live, ?_, author, text⟩
  simp only [enrichLine, read, taken]

end Enricher

end Chat

end LiveChat
