import LiveChat.Ingest.Lines
import LiveChat.Proofs.Json.Spaces
import LiveChat.Proofs.Text.Bytes

/-!
# Streams of lines

What a harvester writes is cut at its line ends, and the pieces that are JSON objects are taken in
one by one, each with its number among them (`Feed.stream_refines_accept`). Whether a piece is an
object is told by the piece alone (`objectOf?_eq_some`, `objectOf?_surrounded`). So what stands
before a line end and what stands behind it can be taken in one after the other
(`Feed.stream_append`), and a piece that is no object might as well not be there
(`Feed.stream_without`).
-/

namespace LiveChat.Ingest

open LiveChat.Delivery LiveChat.Chat LiveChat.Json LiveChat.Text

section Objects

variable {line : List UInt8} {value : Json}

/-- No text of white space is a value; the form feed is no white space of JSON. -/
theorem read?_of_isBlankLine (blank : isBlankLine line = true) {text : String}
    (spelled : text.toUTF8 = ⟨line.toArray⟩) : Json.read? text = none := by
  have blanks : ∀ byte ∈ ([32, 9, 10, 12, 13] : List UInt8),
      byte.toNat < 128 ∧ (isSpace (ascii byte) = true ∨ ascii byte = '\x0c') := by decide +kernel
  have each (byte : UInt8) (member : byte ∈ line) :=
    blanks byte (List.contains_iff_mem.mp (List.all_eq_true.mp blank byte member))
  have all : utf8 text.toList = [] ++ line := toUTF8_eq.mp spelled
  have narrow : AllAscii line := fun byte member => (each byte member).1
  obtain ⟨front, same, nothing⟩ := narrow.exists_of_utf8_eq_append all
  obtain rfl := utf8_eq_nil nothing
  refine read?_of_blank fun char member => ?_
  rw [same] at member
  obtain ⟨byte, listed, rfl⟩ := List.mem_map.mp member
  exact (each byte listed).2

/-- A line is an object if it is the UTF-8 of a text that says one. -/
theorem objectOf?_eq_some : objectOf? line = some value ↔
    ∃ text fields, text.toUTF8 = ⟨line.toArray⟩ ∧ Json.read? text = some (.object fields) ∧
      value = .object fields := by
  constructor
  · intro found
    unfold objectOf? at found
    split at found
    · cases found
    split at found
    · cases found
    rename_i text decoded
    split at found
    · rename_i fields read
      exact ⟨text, fields, fromUTF8?_eq_some.mp decoded, read, (Option.some.inj found).symm⟩
    · cases found
  · rintro ⟨text, fields, spelled, read, rfl⟩
    have solid : ¬ isBlankLine line = true := by
      intro blank
      rw [read?_of_isBlankLine blank spelled] at read
      cases read
    rw [objectOf?, if_neg solid]
    simp only [fromUTF8?_eq_some.mpr spelled, read]

/-- The bytes of JSON white space. -/
def spaceBytes : List UInt8 := [32, 9, 10, 13]

theorem allAscii_of_space {bytes : List UInt8} (space : ∀ byte ∈ bytes, byte ∈ spaceBytes) :
    AllAscii bytes := by
  intro byte member
  have small : ∀ byte ∈ spaceBytes, byte.toNat < 128 := by simp [spaceBytes]
  exact small byte (space byte member)

theorem allSpace_map_ascii {bytes : List UInt8} (space : ∀ byte ∈ bytes, byte ∈ spaceBytes) :
    AllSpace (bytes.map ascii) := by
  have spaces : ∀ byte ∈ spaceBytes, isSpace (ascii byte) = true := by decide +kernel
  intro char member
  obtain ⟨byte, listed, rfl⟩ := List.mem_map.mp member
  exact spaces byte (space byte listed)

/-- White space around a line does not matter. -/
theorem objectOf?_surrounded {before after : List UInt8}
    (opening : ∀ byte ∈ before, byte ∈ spaceBytes)
    (closing : ∀ byte ∈ after, byte ∈ spaceBytes) (line : List UInt8) :
    objectOf? (before ++ line ++ after) = objectOf? line := by
  have same (text : String) : Json.read? (String.ofList
      (before.map ascii ++ text.toList ++ after.map ascii)) = Json.read? text := by
    rw [read?_surrounded (allSpace_map_ascii opening) (allSpace_map_ascii closing),
      String.ofList_toList]
  ext value
  simp only [objectOf?_eq_some, ← fromUTF8?_eq_some,
    fromUTF8?_surrounded (allAscii_of_space opening) (allAscii_of_space closing),
    Option.map_eq_some_iff]
  constructor
  · rintro ⟨_, fields, ⟨text, decoded, rfl⟩, read, rfl⟩
    exact ⟨text, fields, decoded, (same text).symm.trans read, rfl⟩
  · rintro ⟨text, fields, decoded, read, rfl⟩
    exact ⟨_, fields, ⟨text, decoded, rfl⟩, (same text).trans read, rfl⟩

theorem objectOf?_nil : objectOf? [] = none := rfl

end Objects

section Segments

/-- The pieces are those between the line ends, except for an empty one at the end. -/
theorem splitOn_eq_segments (stream : List UInt8) :
    ∃ last ∈ [[], [[]]], stream.splitOn 10 = segments stream ++ last := by
  induction stream with
  | nil => exact ⟨[[]], by simp, rfl⟩
  | cons byte rest ih =>
      obtain ⟨last, member, split⟩ := ih
      rw [List.splitOn_cons_eq_if_modifyHead, segments, split]
      by_cases ends : byte = 10
      · exact ⟨last, member, by simp [ends]⟩
      · cases found : segments rest with
        | nil =>
            obtain rfl : last = [[]] := by
              rcases List.mem_pair.mp member with rfl | rfl
              · rw [found] at split
                exact absurd split (List.splitOn_ne_nil 10 rest)
              · rfl
            exact ⟨[], by simp, by simp [ends]⟩
        | cons first others => exact ⟨last, member, by simp [ends]⟩

example : segments [97, 10, 10, 98] = [[97], [], [98]] := by decide

theorem objectsOf_eq (stream : List UInt8) :
    objectsOf stream = (stream.splitOn 10).filterMap objectOf? := by
  obtain ⟨last, member, split⟩ := splitOn_eq_segments stream
  rw [split, List.filterMap_append, objectsOf]
  rcases List.mem_pair.mp member with rfl | rfl <;> simp [objectOf?_nil]

theorem objectsOf_append (before after : List UInt8) :
    objectsOf (before ++ 10 :: after) = objectsOf before ++ objectsOf after := by
  simp only [objectsOf_eq, List.splitOn_append_cons_self, List.filterMap_append]

end Segments

namespace Feed

variable (url : String) (stamp : Nat → Stamp)

theorem stream_eq_foldl (feed : Feed) (stream : List UInt8) :
    feed.stream url stamp stream = (objectsOf stream).foldl (object url stamp) feed := by
  rw [Feed.stream, objectsOf, List.foldl_filterMap]
  congr 1
  funext feed piece
  rw [line]
  cases objectOf? piece <;> rfl

theorem foldl_object (feed : Feed) (objects : List Json) :
    objects.foldl (object url stamp) feed =
      ⟨(objects.zipIdx feed.delivered).foldl (fun relay numbered =>
          (relay.accept numbered.1 (Platform.ofUrl? url) (stamp numbered.2)).2) feed.relay,
        feed.delivered + objects.length⟩ := by
  induction objects generalizing feed with
  | nil => rfl
  | cons value objects ih =>
      rw [List.foldl_cons, ih, List.zipIdx_cons, List.foldl_cons, List.length_cons]
      rw [object, Relay.deliver, Nat.add_right_comm, Nat.add_assoc]

theorem stream_append (feed : Feed) (before after : List UInt8) :
    feed.stream url stamp (before ++ 10 :: after) =
      (feed.stream url stamp before).stream url stamp after := by
  simp only [stream_eq_foldl, objectsOf_append, List.foldl_append]

/-- A line that is no object has no effect on the lines around it. -/
theorem stream_without (feed : Feed) {piece : List UInt8} (whole : 10 ∉ piece)
    (noObject : objectOf? piece = none) (before after : List UInt8) :
    feed.stream url stamp (before ++ 10 :: (piece ++ 10 :: after)) =
      feed.stream url stamp (before ++ 10 :: after) := by
  have nothing : objectsOf piece = [] := by
    rw [objectsOf_eq, List.splitOn_eq_singleton whole]
    exact List.filterMap_cons_none noObject
  simp only [stream_eq_foldl, objectsOf_append, nothing, List.nil_append]

/-- **Streams of a harvester.** Whatever bytes a harvester writes, the relay takes in the objects
among the pieces between the line ends, in their order, with the platform of its address, and counts
them. A piece is an object if it is the UTF-8 of a text that says one, and white space around it
does not matter. Two streams with a line end between them are taken in one after the other. -/
theorem stream_refines_accept (feed : Feed) (bytes : List UInt8) :
    let objects := (bytes.splitOn 10).filterMap objectOf?
    feed.stream url stamp bytes =
        ⟨(objects.zipIdx feed.delivered).foldl (fun relay numbered =>
            (relay.accept numbered.1 (Platform.ofUrl? url) (stamp numbered.2)).2) feed.relay,
          feed.delivered + objects.length⟩ ∧
      (∀ piece value, objectOf? piece = some value ↔
        ∃ text fields, text.toUTF8 = ⟨piece.toArray⟩ ∧ Json.read? text = some (.object fields) ∧
          value = .object fields) ∧
      (∀ before piece after, (∀ byte ∈ before ++ after, byte ∈ spaceBytes) →
        objectOf? (before ++ piece ++ after) = objectOf? piece) ∧
      ∀ before after, feed.stream url stamp (before ++ 10 :: after) =
        (feed.stream url stamp before).stream url stamp after := by
  refine ⟨?_, fun _ _ => objectOf?_eq_some, fun before piece after space => ?_,
    feed.stream_append url stamp⟩
  · rw [stream_eq_foldl, foldl_object, objectsOf_eq]
  · exact objectOf?_surrounded (fun byte member => space byte (List.mem_append_left _ member))
      (fun byte member => space byte (List.mem_append_right _ member)) piece

end Feed

end LiveChat.Ingest
