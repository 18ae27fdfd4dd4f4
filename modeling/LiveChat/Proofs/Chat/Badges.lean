import LiveChat.Chat.Badge
import LiveChat.Proofs.Json.NumberText

/-!
# Badges keep their form

A badge read from any of its forms has an id and a version without blanks around them
(`Badge.isTidy_of_ofJson?`). Such a badge is read back from the JSON in which it is sent
(`Badge.ofJson?_toJson`), and from the shorthand in which it is stored if its id has no slash
(`Badge.ofJson?_shorthand_iff`).
-/

namespace LiveChat.Chat

open LiveChat.Text LiveChat.Json

namespace Badge

/-- A badge as it is kept: with an id, and no blanks around its parts. -/
structure IsTidy (badge : Badge) : Prop where
  named : badge.id ≠ ""
  id : IsTrimmed badge.id
  version : IsTrimmed badge.version

theorem isTrimmed_of_scalarText? {found : Option Json} {text : String}
    (read : scalarText? found = some text) : IsTrimmed text := by
  unfold scalarText? at read
  split at read
  · cases read
    exact isTrimmed_trimmed _
  · cases read
    exact isTrimmed_of_solid fun _ => Json.Number.solid_of_mem_text
  · cases read

theorem isTrimmed_firstScalar (value : Json) (keys : List String) :
    IsTrimmed (firstScalar value keys) := by
  unfold firstScalar
  cases found : (keys.filterMap fun key => scalarText? (value.get? key)).find? (· != "") with
  | none => rfl
  | some text =>
      obtain ⟨key, -, read⟩ := List.mem_filterMap.mp (List.mem_of_find?_eq_some found)
      exact isTrimmed_of_scalarText? read

theorem isTrimmed_ofShorthand (text : String) :
    IsTrimmed (ofShorthand text).id ∧ IsTrimmed (ofShorthand text).version := by
  unfold ofShorthand
  dsimp only
  split
  · exact ⟨isTrimmed_ofList_trim _, isTrimmed_ofList_trim _⟩
  · exact ⟨isTrimmed_ofList_trim _, rfl⟩

theorem isTidy_of_ofJson? {value : Json} {badge : Badge} (read : ofJson? value = some badge) :
    badge.IsTidy := by
  unfold ofJson? at read
  obtain ⟨found, named⟩ := Option.filter_eq_some_iff.mp read
  split at found
  · cases found
    exact ⟨by simpa using named, (isTrimmed_ofShorthand _).1, (isTrimmed_ofShorthand _).2⟩
  · cases found
    exact ⟨by simpa using named, isTrimmed_firstScalar _ _, isTrimmed_firstScalar _ _⟩
  · cases found

/-- **Sent badges.** A badge is read back from the JSON in which it is sent. -/
theorem ofJson?_toJson {badge : Badge} (tidy : badge.IsTidy) :
    ofJson? badge.toJson = some badge := by
  obtain ⟨id, version⟩ := badge
  obtain ⟨named, idTrimmed, versionTrimmed⟩ := tidy
  dsimp only [IsTrimmed] at named idTrimmed versionTrimmed
  by_cases unversioned : version = ""
  · subst unversioned
    simp [ofJson?, toJson, firstScalar, idKeys, versionKeys, Json.get?, scalarText?, idTrimmed,
      named]
  · simp [ofJson?, toJson, firstScalar, idKeys, versionKeys, Json.get?, scalarText?, idTrimmed,
      versionTrimmed, named, unversioned]

theorem toList_shorthand (badge : Badge) :
    badge.shorthand.toList =
      badge.id.toList ++ if badge.version = "" then [] else '/' :: badge.version.toList := by
  unfold shorthand
  by_cases unversioned : badge.version = ""
  · rw [if_pos unversioned, if_pos unversioned, List.append_nil]
  · rw [if_neg unversioned, if_neg unversioned]
    simp

/-- There are no blanks around the shorthand of a badge. -/
theorem IsTidy.trim_shorthand {badge : Badge} (tidy : badge.IsTidy) :
    trim badge.shorthand.toList = badge.shorthand.toList := by
  have named : badge.id.toList ≠ [] := by simpa using tidy.named
  rw [toList_shorthand]
  apply trim_eq_self
  · intro char first
    rw [List.head?_append_of_ne_nil _ named, ← tidy.id.trim_toList] at first
    exact solid_of_mem_head?_trim first
  · intro char last
    by_cases unversioned : badge.version = ""
    · rw [if_pos unversioned, List.append_nil, ← tidy.id.trim_toList] at last
      exact solid_of_mem_getLast?_trim last
    · have visible : badge.version.toList ≠ [] := by simpa using unversioned
      rw [if_neg unversioned, List.getLast?_append_of_ne_nil _ (List.cons_ne_nil _ _),
        ← List.singleton_append, List.getLast?_append_of_ne_nil _ visible,
        ← tidy.version.trim_toList] at last
      exact solid_of_mem_getLast?_trim last

/-- A shorthand is cut at its first slash, which is the one that was put in unless the id has
another. -/
theorem ofShorthand_shorthand_iff {badge : Badge} (tidy : badge.IsTidy) :
    ofShorthand badge.shorthand = badge ↔ '/' ∉ badge.id.toList := by
  unfold ofShorthand
  dsimp only
  rw [tidy.trim_shorthand, toList_shorthand]
  constructor
  · intro same slash
    obtain ⟨head, rest, split, absent⟩ := List.eq_append_cons_of_mem slash
    have cut : splitOnce '/' (badge.id.toList ++
        if badge.version = "" then [] else '/' :: badge.version.toList) =
        some (head, rest ++ if badge.version = "" then [] else '/' :: badge.version.toList) := by
      rw [splitOnce_eq_some_iff, split, List.append_assoc, List.cons_append]
      exact ⟨rfl, absent⟩
    rw [cut] at same
    have lengths := congrArg (fun badge => badge.id.toList.length) same
    have shorter := length_trim_le head
    simp only [String.toList_ofList, split, List.length_append, List.length_cons] at lengths
    omega
  · intro absent
    by_cases unversioned : badge.version = ""
    · rw [if_pos unversioned, List.append_nil, splitOnce_eq_none_iff.mpr absent]
      simp only [String.ofList_toList, ← unversioned]
    · rw [if_neg unversioned, splitOnce_eq_some_iff.mpr ⟨rfl, absent⟩]
      simp only [tidy.id.trim_toList, tidy.version.trim_toList, String.ofList_toList]

/-- **Badges in columns.** A badge is read back from its shorthand just when its id has no slash. -/
theorem ofJson?_shorthand_iff {badge : Badge} (tidy : badge.IsTidy) :
    ofJson? (.string badge.shorthand) = some badge ↔ '/' ∉ badge.id.toList := by
  rw [← ofShorthand_shorthand_iff tidy, ofJson?, Option.filter_eq_some_iff, Option.some.injEq]
  exact and_iff_left (bne_iff_ne.mpr tidy.named)

end Badge

end LiveChat.Chat
