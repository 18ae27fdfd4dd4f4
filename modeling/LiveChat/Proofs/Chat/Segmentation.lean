import LiveChat.Proofs.Chat.WrappedNames

/-!
# The only segmentation of a word

A word can be cut in many ways, but in one way only if its parts have the forms of segments and stand
next to each other as segments do (`IsSegmentation`). Such a cut is a first segment, as the scan cuts
it off, and a cut of what is left (`isSegmentation_cons_iff`). So it is the cut that the scan makes
(`colonSegments_is_only_segmentation`).
-/

namespace LiveChat.Chat

/-- The forms of a segment: a run without colons, a lone colon, a name between colons, and a piece
that is still open. -/
def IsSegment (segment : List Char) : Prop :=
  ':' ∉ segment ∨ segment = [':'] ∨ (∃ name, name ≠ [] ∧ ':' ∉ name ∧ segment = wrapped name) ∨
    IsOpen segment

/-- Behind a run without colons and behind a lone colon there is nothing but a colon. -/
def MayPrecede (segment next : List Char) : Prop :=
  ':' ∉ segment ∨ segment = [':'] → next.head? = some ':'

structure IsSegmentation (text : List Char) (segments : List (List Char)) : Prop where
  whole : segments.flatten = text
  visible : ∀ segment ∈ segments, segment ≠ []
  formed : ∀ segment ∈ segments, IsSegment segment
  /-- Only the last segment is open. -/
  closed : ∀ segment ∈ segments.dropLast, ¬ IsOpen segment
  ordered : segments.IsChain MayPrecede

theorem isSegmentation_nil_iff {text : List Char} : IsSegmentation text [] ↔ text = [] := by
  constructor
  · intro cut
    exact cut.whole.symm
  · rintro rfl
    exact ⟨rfl, by simp, by simp, by simp, .nil⟩

namespace FirstCut

variable {segment rest : List Char}

theorem isSegment (cut : FirstCut segment rest) : IsSegment segment := by
  cases cut with
  | run _ plain => exact Or.inl plain
  | lone => exact Or.inr (Or.inl rfl)
  | wrapped visible plain => exact Or.inr (Or.inr (Or.inl ⟨_, visible, plain, rfl⟩))
  | «open» visible plain => exact Or.inr (Or.inr (Or.inr ⟨_, visible, plain, rfl⟩))

/-- What is left behind a run without colons or a lone colon begins with a colon. -/
theorem begins (cut : FirstCut segment rest) (short : ':' ∉ segment ∨ segment = [':']) :
    ∀ char ∈ rest.head?, char = ':' := by
  cases cut with
  | run _ _ ends => exact ends
  | lone ends => exact ends
  | wrapped =>
      rcases short with plain | lone
      · exact absurd List.mem_cons_self plain
      · exact absurd (List.cons.inj lone).2 (List.append_ne_nil_of_right_ne_nil _ (by decide))
  | «open» =>
      intro char first
      cases first

end FirstCut

namespace IsSegmentation

variable {segment rest : List Char} {segments : List (List Char)}

theorem eq_nil_iff (cut : IsSegmentation rest segments) : segments = [] ↔ rest = [] := by
  constructor
  · rintro rfl
    exact isSegmentation_nil_iff.mp cut
  · rintro rfl
    refine List.eq_nil_iff_forall_not_mem.mpr fun segment member => ?_
    exact cut.visible segment member (List.flatten_eq_nil_iff.mp cut.whole segment member)

/-- The text begins as its first segment does. -/
theorem begins_iff (cut : IsSegmentation rest segments) :
    (∀ char ∈ rest.head?, char = ':') ↔ ∀ next ∈ segments.head?, next.head? = some ':' := by
  cases segments with
  | nil =>
      rw [isSegmentation_nil_iff.mp cut]
      simp
  | cons next others =>
      obtain ⟨char, letters, rfl⟩ :=
        List.exists_cons_of_ne_nil (cut.visible next List.mem_cons_self)
      rw [← cut.whole]
      simp

theorem tail (cut : IsSegmentation (segment ++ rest) (segment :: segments)) :
    IsSegmentation rest segments where
  whole := List.append_cancel_left (List.flatten_cons.symm.trans cut.whole)
  visible other member := cut.visible other (List.mem_cons_of_mem _ member)
  formed other member := cut.formed other (List.mem_cons_of_mem _ member)
  closed other member := by
    refine cut.closed other ?_
    rw [List.dropLast_cons_of_ne_nil (List.ne_nil_of_mem (List.dropLast_subset _ member))]
    exact List.mem_cons_of_mem _ member
  ordered := cut.ordered.tail

theorem firstCut (cut : IsSegmentation (segment ++ rest) (segment :: segments)) :
    FirstCut segment rest := by
  have visible := cut.visible segment List.mem_cons_self
  have begins (short : ':' ∉ segment ∨ segment = [':']) : ∀ char ∈ rest.head?, char = ':' := by
    rw [cut.tail.begins_iff]
    intro next first
    exact (List.isChain_cons.mp cut.ordered).1 next first short
  rcases cut.formed segment List.mem_cons_self with plain | rfl | ⟨name, named, plain, rfl⟩ | opened
  · exact .run visible plain (begins (Or.inl plain))
  · exact .lone (begins (Or.inr rfl))
  · exact .wrapped named plain
  -- Only the last segment is open, so that nothing is behind it.
  · have nothing : segments = [] := by
      by_contra more
      refine cut.closed segment ?_ opened
      rw [List.dropLast_cons_of_ne_nil more]
      exact List.mem_cons_self
    obtain ⟨name, named, plain, rfl⟩ := opened
    rw [cut.tail.eq_nil_iff.mp nothing]
    exact .open named plain

theorem cons (first : FirstCut segment rest) (cut : IsSegmentation rest segments) :
    IsSegmentation (segment ++ rest) (segment :: segments) where
  whole := by rw [List.flatten_cons, cut.whole]
  visible := List.forall_mem_cons.mpr ⟨first.ne_nil, cut.visible⟩
  formed := List.forall_mem_cons.mpr ⟨first.isSegment, cut.formed⟩
  closed := by
    by_cases nothing : segments = []
    · subst nothing
      simp
    · rw [List.dropLast_cons_of_ne_nil nothing, List.forall_mem_cons]
      refine ⟨fun opened => ?_, cut.closed⟩
      exact nothing (cut.eq_nil_iff.mpr (first.eq_nil_of_isOpen opened))
  ordered := by
    rw [List.isChain_cons]
    refine ⟨fun next behind short => ?_, cut.ordered⟩
    exact cut.begins_iff.mp (first.begins short) next behind

end IsSegmentation

/-- A text that is cut into segments is a first segment and the others behind it. -/
theorem isSegmentation_cons_iff {segment rest : List Char} {segments : List (List Char)} :
    IsSegmentation (segment ++ rest) (segment :: segments) ↔
      FirstCut segment rest ∧ IsSegmentation rest segments := by
  constructor
  · intro cut
    exact ⟨cut.firstCut, cut.tail⟩
  · rintro ⟨first, cut⟩
    exact cut.cons first

theorem isSegmentation_colonSegments (text : List Char) :
    IsSegmentation text (colonSegments text) := by
  fun_induction colonSegments text with
  | case1 => exact isSegmentation_nil_iff.mpr rfl
  | case2 char rest ih =>
      have cut := isSegmentation_cons_iff.mpr ⟨firstCut_firstSegment char rest, ih⟩
      rwa [append_of_firstSegment] at cut

theorem IsSegmentation.eq_colonSegments {text : List Char} {segments : List (List Char)}
    (cut : IsSegmentation text segments) : segments = colonSegments text := by
  induction segments generalizing text with
  | nil => rw [isSegmentation_nil_iff.mp cut, colonSegments]
  | cons segment others ih =>
      obtain rfl : segment ++ others.flatten = text := List.flatten_cons.symm.trans cut.whole
      obtain ⟨first, later⟩ := isSegmentation_cons_iff.mp cut
      rw [colonSegments_of_firstCut first, ← ih later]

/-- **The only segmentation.** The scan cuts any text into segments that are not empty and make up
the text: runs without colons, lone colons, names between colons, and at the end maybe a piece that
is still open. Behind a run and behind a lone colon comes a colon or nothing. There is no other list
of segments like that. -/
theorem colonSegments_is_only_segmentation (text : List Char) (segments : List (List Char)) :
    IsSegmentation text segments ↔ segments = colonSegments text := by
  constructor
  · intro cut
    exact cut.eq_colonSegments
  · rintro rfl
    exact isSegmentation_colonSegments text

/-- All four forms of segments. -/
example : colonSegments ":abc:d::e:fg:hij".toList =
    [":abc:", "d", ":", ":e:", "fg", ":hij"].map String.toList := by
  decide +kernel

end LiveChat.Chat
