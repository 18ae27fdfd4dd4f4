import LiveChat.Text.Blank

/-!
# Colon segments of a word

Some platforms write emotes as `:name:`, even glued to other text. A word is cut from left to right
into plain runs, lone colons and pieces between two colons; an opened piece that is not closed takes
the rest of the word.
-/

namespace LiveChat.Chat

open LiveChat.Text

theorem length_of_splitOnce {mark : Char} {text head tail : List Char}
    (split : splitOnce mark text = some (head, tail)) : tail.length < text.length := by
  induction text generalizing head tail with
  | nil => simp [splitOnce] at split
  | cons char rest ih =>
      unfold splitOnce at split
      by_cases same : char = mark
      · simp only [same, ↓reduceIte, Option.some.injEq, Prod.mk.injEq] at split
        simp [split.2]
      · simp only [same, ↓reduceIte, Option.map_eq_some_iff] at split
        obtain ⟨parts, found, equal⟩ := split
        have shorter := ih found
        simp only [Prod.mk.injEq] at equal
        simp only [← equal.2, List.length_cons]
        omega

/-- The first segment of a text that is not empty, and the rest of the text. -/
def firstSegment (char : Char) (rest : List Char) : List Char × List Char :=
  if char = ':' then
    match splitOnce ':' rest with
    | none => (char :: rest, [])
    | some ([], _) => ([char], rest)
    | some (name, tail) => (char :: name ++ [':'], tail)
  else
    (char :: rest.takeWhile (· != ':'), rest.dropWhile (· != ':'))

theorem length_firstSegment (char : Char) (rest : List Char) :
    (firstSegment char rest).2.length ≤ rest.length := by
  unfold firstSegment
  split
  · split
    · simp
    · simp
    · rename_i split
      exact Nat.le_of_lt (length_of_splitOnce split)
  · exact (List.dropWhile_sublist _).length_le

def colonSegments : List Char → List (List Char)
  | [] => []
  | char :: rest =>
      (firstSegment char rest).1 :: colonSegments (firstSegment char rest).2
termination_by text => text.length
decreasing_by
  have := length_firstSegment char rest
  simp only [List.length_cons]
  omega

end LiveChat.Chat
