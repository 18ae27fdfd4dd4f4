import LiveChat.Proofs.Json.ReadBack
import LiveChat.Proofs.Text.Blanks
import LiveChat.Store.OffsetFile

/-!
# What the position file gives back

A position of two signed numbers of 64 bits can be read from its text again
(`Position.IsStorable.decode_toJson`). The text is one line without blanks around it, so that what
is written to the file is what is read from it (`loadOffset_offsetText`). A disk on which positions
can be stored gives back what was stored last (`OffsetDisk.Accepts.load_store`), and goes on to be
such a disk (`OffsetDisk.Accepts.store`).
-/

namespace LiveChat

namespace Json

open LiveChat.Text

theorem exists_printFields (fields : List (String × Json)) :
    ∃ front, printFields fields = front ++ ['\x7d'] := by
  induction fields with
  | nil => exact ⟨[], by rw [printFields]; rfl⟩
  | cons field rest ih =>
      obtain ⟨front, split⟩ := ih
      refine ⟨',' :: writtenString field.1 ++ ':' :: field.2.print ++ front, ?_⟩
      rw [printFields, split]
      simp only [List.append_assoc, List.cons_append]

/-- The text of an object stands between braces. -/
theorem exists_print_object (fields : List (String × Json)) :
    ∃ inside, print (.object fields) = '\x7b' :: inside ++ ['\x7d'] := by
  cases fields with
  | nil => exact ⟨[], by rw [print]; rfl⟩
  | cons field rest =>
      obtain ⟨front, split⟩ := exists_printFields rest
      refine ⟨writtenString field.1 ++ ':' :: field.2.print ++ front, ?_⟩
      rw [print, split]
      simp only [List.cons_append, List.append_assoc]

/-- Trimming takes off the end of the line behind an object, and no more. -/
theorem trimmed_text_object (fields : List (String × Json)) :
    trimmed (text (.object fields) ++ "\n") = text (.object fields) := by
  obtain ⟨inside, split⟩ := exists_print_object fields
  have start : trimStart (print (.object fields) ++ ['\n']) = print (.object fields) ++ ['\n'] := by
    refine trimStart_eq_self fun char first => ?_
    rw [split] at first
    cases first
    decide
  have stop : (print (.object fields)).rdropWhile isBlank = print (.object fields) := by
    refine List.rdropWhile_eq_self_iff.mpr fun nonempty => ?_
    simp only [split, List.getLast_append_singleton]
    decide
  rw [trimmed, text, String.toList_append, String.toList_ofList]
  change String.ofList (trim (print (.object fields) ++ ['\n'])) = _
  rw [trim, start, trimEnd_eq_rdropWhile, List.rdropWhile_concat_pos _ _ _ (by decide), stop]

end Json

namespace Store

open LiveChat.Json LiveChat.Text

namespace Position

/-- Both numbers are signed numbers of 64 bits. -/
structure IsStorable (position : Position) : Prop where
  ts : -2 ^ 63 ≤ position.ts ∧ position.ts < 2 ^ 63
  rowId : -2 ^ 63 ≤ position.rowId ∧ position.rowId < 2 ^ 63

theorem decodeNumber_ofInt {value : Int} (bounds : -2 ^ 63 ≤ value ∧ value < 2 ^ 63) :
    decodeNumber (Json.ofInt value).outline = .ok value := by
  have inside : (-Nat.pow 2 63 : Int) ≤ value ∧ value ≤ Nat.pow 2 63 - 1 := by
    rw [show ((Nat.pow 2 63 : Nat) : Int) = 2 ^ 63 from rfl]
    omega
  simp only [decodeNumber, ofInt, outline, Outline.asInteger, if_pos inside]

namespace IsStorable

variable {position : Position}

theorem isExact_toJson (storable : position.IsStorable) : IsExact position.toJson := by
  refine .object fun field member => ?_
  obtain ⟨⟨tsLow, tsHigh⟩, rowIdLow, rowIdHigh⟩ := storable
  simp only [List.mem_cons, List.not_mem_nil, or_false] at member
  rcases member with rfl | rfl
  · refine .integer ⟨tsLow, ?_⟩
    omega
  · refine .integer ⟨rowIdLow, ?_⟩
    omega

theorem decode_toJson (storable : position.IsStorable) :
    decode position.toJson.outline = .ok position := by
  have ts := decodeNumber_ofInt storable.ts
  have rowId := decodeNumber_ofInt storable.rowId
  simp [decode, fields, decodeRecord, RecordField.putEntries, RecordField.name, toJson, outline,
    outlineFields, Functor.map, Except.map, ts, rowId]

theorem decodeText_text (storable : position.IsStorable) :
    decodeText decode position.toJson.text = .ok position := by
  rw [decodeText, storable.isExact_toJson.read?_text]
  exact storable.decode_toJson

end IsStorable

end Position

theorem readText_toUTF8 (text : String) : (FileState.data text.toUTF8).readText = .ok text := by
  have valid : String.fromUTF8? text.toUTF8 = some text := dif_pos text.isValidUTF8
  simp only [FileState.readText, valid]

/-- **The position file.** What is written for a position is read as that position. -/
theorem loadOffset_offsetText {position : Position} (storable : position.IsStorable) :
    loadOffset (.data (offsetText position).toUTF8) = some position := by
  have line : trimmed (offsetText position) = position.toJson.text := trimmed_text_object _
  simp only [loadOffset, readText_toUTF8, line, storable.decodeText_text]

namespace OffsetDisk

/-- Whatever is to be stored can be stored. -/
def Accepts (disk : OffsetDisk) : Prop := ∀ position, (disk.store position).1 = .ok ()

variable {disk : OffsetDisk} {position : Position}

/-- When all steps succeed, the file holds the text of the position, and no other file is left. -/
theorem store_of_ok (stored : (disk.store position).1 = .ok ()) :
    (disk.store position).2 = ⟨true, .data (offsetText position).toUTF8, .absent⟩ := by
  obtain ⟨hasDirectory, target, temporary⟩ := disk
  cases hasDirectory with
  | false => cases stored
  | true => cases temporary <;> cases target <;> first | rfl | cases stored

theorem load_store_of_ok (stored : (disk.store position).1 = .ok ())
    (storable : position.IsStorable) : (disk.store position).2.load = some position := by
  rw [store_of_ok stored]
  exact loadOffset_offsetText storable

theorem Accepts.store (accepts : disk.Accepts) (position : Position) :
    (disk.store position).2.Accepts := by
  intro next
  rw [store_of_ok (accepts position)]
  rfl

theorem Accepts.load_store (accepts : disk.Accepts) (storable : position.IsStorable) :
    (disk.store position).2.load = some position :=
  load_store_of_ok (accepts position) storable

end OffsetDisk

end Store

end LiveChat
