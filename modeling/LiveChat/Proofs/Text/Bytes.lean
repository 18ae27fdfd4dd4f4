import Mathlib.Data.List.Basic

/-!
# Bytes below 128 in a text

A byte below 128 among the bytes of a text is a character of the text (`exists_of_utf8_eq_append`):
no part of a longer character looks like it. So bytes can be cut at such a byte before they are read
as a text, and such bytes around others do not decide whether the others are a text
(`fromUTF8?_surrounded`).
-/

namespace LiveChat.Text

/-- The bytes of a text. -/
def utf8 (text : List Char) : List UInt8 := text.flatMap String.utf8EncodeChar

theorem utf8_append (text other : List Char) : utf8 (text ++ other) = utf8 text ++ utf8 other :=
  List.flatMap_append

theorem toUTF8_eq {text : String} {bytes : List UInt8} :
    text.toUTF8 = ⟨bytes.toArray⟩ ↔ utf8 text.toList = bytes := by
  have packed : text.toUTF8 = ⟨(utf8 text.toList).toArray⟩ := by
    rw [String.toUTF8_eq_toByteArray, ← String.utf8Encode_toList]
    exact ByteArray.ext List.data_toByteArray
  rw [packed, ByteArray.ext_iff]
  exact ⟨fun arrays => by simpa using arrays, fun lists => by rw [lists]⟩

theorem fromUTF8?_eq_some {bytes : ByteArray} {text : String} :
    String.fromUTF8? bytes = some text ↔ text.toUTF8 = bytes := by
  rw [String.fromUTF8?, String.toUTF8_eq_toByteArray]
  constructor
  · intro read
    split at read
    · cases read
      rfl
    · cases read
  · rintro rfl
    rw [dif_pos text.isValidUTF8]
    rfl

theorem le_of_mem_utf8EncodeChar {char : Char} (wide : 128 ≤ char.val.toNat) :
    ∀ byte ∈ String.utf8EncodeChar char, 128 ≤ byte.toNat := by
  simp only [String.utf8EncodeChar, if_neg (Nat.not_le.mpr wide)]
  split_ifs <;>
    simp only [List.mem_cons, List.not_mem_nil, or_false, forall_eq_or_imp, forall_eq,
      UInt8.toNat_ofNat'] <;>
    omega

/-- The character that a byte below 128 stands for. -/
def ascii (byte : UInt8) : Char := Char.ofNat byte.toNat

/-- Only one character has a byte below 128, which is its only byte. -/
theorem utf8EncodeChar_of_mem {char : Char} {byte : UInt8}
    (member : byte ∈ String.utf8EncodeChar char) (small : byte.toNat < 128) :
    char = ascii byte ∧ String.utf8EncodeChar char = [byte] := by
  by_cases wide : 128 ≤ char.val.toNat
  · have := le_of_mem_utf8EncodeChar wide byte member
    omega
  · have narrow : char.val.toNat ≤ 127 := by omega
    simp only [String.utf8EncodeChar, if_pos narrow] at member ⊢
    obtain rfl := List.mem_singleton.mp member
    refine ⟨?_, rfl⟩
    rw [ascii, UInt8.toNat_ofNat', Nat.mod_eq_of_lt (by omega)]
    exact char.ofNat_toNat.symm

theorem utf8_ascii {byte : UInt8} (small : byte.toNat < 128) :
    String.utf8EncodeChar (ascii byte) = [byte] := by
  have valid : byte.toNat.isValidChar := .inl (by omega)
  have code : (ascii byte).val.toNat = byte.toNat := by
    rw [ascii, Char.ofNat, dif_pos valid]
    rfl
  simp only [String.utf8EncodeChar, code, if_pos (Nat.le_of_lt_succ small), UInt8.ofNat_toNat]

/-- A byte below 128 among the bytes of a text is one of its characters. -/
theorem exists_of_utf8_eq_append {text : List Char} {before after : List UInt8} {byte : UInt8}
    (small : byte.toNat < 128) (spelled : utf8 text = before ++ byte :: after) :
    ∃ front back, text = front ++ ascii byte :: back ∧ utf8 front = before ∧ utf8 back = after := by
  induction text generalizing before with
  | nil => simp [utf8] at spelled
  | cons char text ih =>
      rw [utf8, List.flatMap_cons, ← utf8] at spelled
      obtain ⟨more, rfl, later⟩ | ⟨more, split, rest⟩ := List.append_eq_append_iff.mp spelled
      · obtain ⟨front, back, rfl, rfl, rfl⟩ := ih later
        exact ⟨char :: front, back, rfl, rfl, rfl⟩
      · cases more with
        | nil =>
            obtain ⟨front, back, rfl, nothing, rfl⟩ := @ih [] rest.symm
            refine ⟨char :: front, back, rfl, ?_, rfl⟩
            rw [utf8, List.flatMap_cons, ← utf8, nothing, split, List.append_nil, List.append_nil]
        | cons first more =>
            obtain ⟨rfl, rfl⟩ := List.cons.inj rest
            have member : byte ∈ String.utf8EncodeChar char := by simp [split]
            obtain ⟨rfl, alone⟩ := utf8EncodeChar_of_mem member small
            obtain ⟨rfl, rfl⟩ : before = [] ∧ more = [] := by
              have length := congrArg List.length (split.symm.trans alone)
              simp only [List.length_append, List.length_cons, List.length_nil] at length
              exact ⟨List.length_eq_zero_iff.mp (by omega), List.length_eq_zero_iff.mp (by omega)⟩
            exact ⟨[], text, rfl, rfl, rfl⟩

theorem utf8_eq_nil {text : List Char} (nothing : utf8 text = []) : text = [] := by
  cases text with
  | nil => rfl
  | cons char text => simp [utf8] at nothing

/-- Bytes that are all below 128. -/
def AllAscii (bytes : List UInt8) : Prop := ∀ byte ∈ bytes, byte.toNat < 128

namespace AllAscii

variable {bytes : List UInt8}

theorem utf8_map (narrow : AllAscii bytes) : utf8 (bytes.map ascii) = bytes := by
  induction bytes with
  | nil => rfl
  | cons byte bytes ih =>
      obtain ⟨small, rest⟩ := List.forall_mem_cons.mp narrow
      rw [utf8, List.map_cons, List.flatMap_cons, ← utf8, ih rest, utf8_ascii small]
      rfl

theorem exists_of_utf8_eq_append {text : List Char} {before : List UInt8}
    (narrow : AllAscii bytes) (spelled : utf8 text = before ++ bytes) :
    ∃ front, text = front ++ bytes.map ascii ∧ utf8 front = before := by
  induction bytes generalizing text before with
  | nil => exact ⟨text, (List.append_nil _).symm, by rw [spelled, List.append_nil]⟩
  | cons byte bytes ih =>
      obtain ⟨small, rest⟩ := List.forall_mem_cons.mp narrow
      obtain ⟨front, back, rfl, frontSpelled, backSpelled⟩ :=
        Text.exists_of_utf8_eq_append small spelled
      obtain ⟨between, rfl, nothing⟩ := @ih back [] rest backSpelled
      obtain rfl := utf8_eq_nil nothing
      exact ⟨front, rfl, frontSpelled⟩

theorem exists_of_utf8_eq_append_left {text : List Char} {after : List UInt8}
    (narrow : AllAscii bytes) (spelled : utf8 text = bytes ++ after) :
    ∃ back, text = bytes.map ascii ++ back ∧ utf8 back = after := by
  induction bytes generalizing text with
  | nil => exact ⟨text, rfl, spelled⟩
  | cons byte bytes ih =>
      obtain ⟨small, rest⟩ := List.forall_mem_cons.mp narrow
      have atFront : utf8 text = [] ++ byte :: (bytes ++ after) := spelled
      obtain ⟨front, back, rfl, nothing, backSpelled⟩ :=
        Text.exists_of_utf8_eq_append small atFront
      obtain rfl := utf8_eq_nil nothing
      obtain ⟨back, rfl, restSpelled⟩ := ih rest backSpelled
      exact ⟨back, rfl, restSpelled⟩

end AllAscii

/-- ASCII around the bytes of a text is ASCII around the text. -/
theorem fromUTF8?_surrounded {before after : List UInt8} (opening : AllAscii before)
    (closing : AllAscii after) (bytes : List UInt8) :
    String.fromUTF8? ⟨(before ++ bytes ++ after).toArray⟩ =
      (String.fromUTF8? ⟨bytes.toArray⟩).map fun text =>
        String.ofList (before.map ascii ++ text.toList ++ after.map ascii) := by
  ext text
  rw [Option.map_eq_some_iff, fromUTF8?_eq_some, toUTF8_eq]
  constructor
  · intro spelled
    obtain ⟨front, same, frontSpelled⟩ := closing.exists_of_utf8_eq_append spelled
    obtain ⟨middle, rfl, middleSpelled⟩ := opening.exists_of_utf8_eq_append_left frontSpelled
    refine ⟨String.ofList middle, fromUTF8?_eq_some.mpr (toUTF8_eq.mpr ?_), ?_⟩
    · rw [String.toList_ofList, middleSpelled]
    · rw [String.toList_ofList, ← same, String.ofList_toList]
  · rintro ⟨middle, read, rfl⟩
    rw [String.toList_ofList, utf8_append, utf8_append, opening.utf8_map, closing.utf8_map,
      toUTF8_eq.mp (fromUTF8?_eq_some.mp read)]

end LiveChat.Text
