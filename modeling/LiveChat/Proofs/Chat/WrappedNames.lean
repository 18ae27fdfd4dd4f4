import LiveChat.Proofs.Chat.Pictures

/-!
# Names between colons

The scan of a word cuts off one of four kinds of segments at a time (`FirstCut`), and whatever is
cut in this way is what the scan cuts (`colonSegments_of_firstCut`). When a colon comes next, only
a piece that is still open makes a difference: otherwise the scan goes on behind it as if it began
there (`colonSegments_append_of_closed`), and else the colon closes the piece
(`colonSegments_append_of_open`). So a name between colons stays whole just when nothing is open in
front of it, and then it is shown as a picture if it is cached (`wrapped_name_stays_whole`).
-/

namespace LiveChat.Chat

open LiveChat.Text

/-- A segment that begins with a colon and waits for another one. -/
def IsOpen (segment : List Char) : Prop := ∃ name, name ≠ [] ∧ ':' ∉ name ∧ segment = ':' :: name

/-- The last segment of a text is open. -/
def EndsOpen (text : List Char) : Prop := ∃ segment ∈ (colonSegments text).getLast?, IsOpen segment

/-- A name between two colons. -/
def wrapped (name : List Char) : List Char := ':' :: name ++ [':']

/-- A first segment of a text, and what may stand behind it. -/
inductive FirstCut : List Char → List Char → Prop
  | run {run rest : List Char} (visible : run ≠ []) (plain : ':' ∉ run)
      (ends : ∀ char ∈ rest.head?, char = ':') : FirstCut run rest
  | lone {rest : List Char} (ends : ∀ char ∈ rest.head?, char = ':') : FirstCut [':'] rest
  | wrapped {name rest : List Char} (visible : name ≠ []) (plain : ':' ∉ name) :
      FirstCut (wrapped name) rest
  | open {name : List Char} (visible : name ≠ []) (plain : ':' ∉ name) : FirstCut (':' :: name) []

theorem firstCut_firstSegment (char : Char) (rest : List Char) :
    FirstCut (firstSegment char rest).1 (firstSegment char rest).2 := by
  unfold firstSegment
  by_cases colon : char = ':'
  · subst colon
    rw [if_pos rfl]
    split
    · rename_i uncut
      rw [splitOnce_eq_none_iff] at uncut
      by_cases bare : rest = []
      · subst bare
        exact .lone fun char first => by cases first
      · exact .open bare uncut
    · rename_i tail cut
      rw [(splitOnce_eq_some_iff.mp cut).1]
      exact .lone fun char first => (Option.some.inj first).symm
    · rename_i name tail visible cut
      exact .wrapped visible (splitOnce_eq_some_iff.mp cut).2
  · rw [if_neg colon]
    refine .run (List.cons_ne_nil _ _) ?_ ?_
    · intro member
      rcases List.mem_cons.mp member with same | later
      · exact colon same.symm
      · exact absurd (List.mem_takeWhile_imp later) (by decide)
    · intro other first
      rw [← List.find?_not_eq_head?_dropWhile] at first
      have found := List.find?_some first
      simpa using found

theorem firstSegment_of_firstCut {char : Char} {segment rest : List Char}
    (cut : FirstCut (char :: segment) rest) :
    firstSegment char (segment ++ rest) = (char :: segment, rest) := by
  generalize first : char :: segment = whole at cut
  cases cut with
  | run visible plain ends =>
      subst first
      rw [List.mem_cons, not_or] at plain
      have inside : ∀ other ∈ segment, (other != ':') = true := by
        intro other member
        rw [bne_iff_ne]
        rintro rfl
        exact plain.2 member
      rw [firstSegment, if_neg (Ne.symm plain.1), List.takeWhile_append_of_pos inside,
        List.dropWhile_append_of_pos inside]
      cases rest with
      | nil => rw [List.takeWhile_nil, List.dropWhile_nil, List.append_nil]
      | cons next tail =>
          obtain rfl := ends next rfl
          rw [List.takeWhile_cons_of_neg (by decide), List.dropWhile_cons_of_neg (by decide),
            List.append_nil]
  | lone ends =>
      cases first
      cases rest with
      | nil => rfl
      | cons next tail =>
          obtain rfl := ends next rfl
          rfl
  | @wrapped name rest visible plain =>
      obtain ⟨rfl, rfl⟩ : char = ':' ∧ segment = name ++ [':'] := List.cons.inj first
      have found : splitOnce ':' (name ++ [':'] ++ rest) = some (name, rest) := by
        rw [splitOnce_eq_some_iff, List.append_assoc]
        exact ⟨rfl, plain⟩
      rw [firstSegment, if_pos rfl, found]
      obtain ⟨letter, others, rfl⟩ := List.exists_cons_of_ne_nil visible
      rfl
  | «open» visible plain =>
      cases first
      rw [List.append_nil, firstSegment, if_pos rfl, splitOnce_eq_none_iff.mpr plain]

theorem FirstCut.ne_nil {segment rest : List Char} (cut : FirstCut segment rest) :
    segment ≠ [] := by
  cases cut with
  | run visible => exact visible
  | lone => exact List.cons_ne_nil _ _
  | wrapped => exact List.cons_ne_nil _ _
  | «open» => exact List.cons_ne_nil _ _

/-- What can be cut off a text first is what the scan cuts off. -/
theorem colonSegments_of_firstCut {segment rest : List Char} (cut : FirstCut segment rest) :
    colonSegments (segment ++ rest) = segment :: colonSegments rest := by
  obtain ⟨char, others, rfl⟩ := List.exists_cons_of_ne_nil cut.ne_nil
  rw [List.cons_append, colonSegments, firstSegment_of_firstCut cut]

theorem FirstCut.append {segment rest : List Char} (cut : FirstCut segment rest)
    (closed : ¬ IsOpen segment) (more : List Char) :
    FirstCut segment (rest ++ ':' :: more) := by
  have ends (begins : ∀ char ∈ rest.head?, char = ':') :
      ∀ char ∈ (rest ++ ':' :: more).head?, char = ':' := by
    cases rest with
    | nil => exact fun char first => (Option.some.inj first).symm
    | cons => exact begins
  cases cut with
  | run visible plain begins => exact .run visible plain (ends begins)
  | lone begins => exact .lone (ends begins)
  | wrapped visible plain => exact .wrapped visible plain
  | «open» visible plain => exact absurd ⟨_, visible, plain, rfl⟩ closed

theorem colonSegments_ne_nil {text : List Char} (visible : text ≠ []) :
    colonSegments text ≠ [] := by
  obtain ⟨char, rest, rfl⟩ := List.exists_cons_of_ne_nil visible
  rw [colonSegments]
  exact List.cons_ne_nil _ _

theorem not_endsOpen_nil : ¬ EndsOpen [] := by
  rintro ⟨segment, last, -⟩
  rw [colonSegments] at last
  cases last

/-- An open segment has nothing behind it. -/
theorem FirstCut.eq_nil_of_isOpen {segment rest : List Char} (cut : FirstCut segment rest)
    (opened : IsOpen segment) : rest = [] := by
  obtain ⟨name, visible, plain, same⟩ := opened
  cases cut with
  | run _ noColon =>
      rw [same] at noColon
      exact absurd List.mem_cons_self noColon
  | lone => exact absurd (List.cons.inj same).2.symm visible
  | wrapped =>
      obtain rfl := (List.cons.inj same).2
      exact absurd (List.mem_append_right _ (List.mem_singleton_self _)) plain
  | «open» => rfl

/-- A text ends open if what is left behind its first segment does, or if its first segment is open
itself. -/
theorem endsOpen_iff_of_firstCut {segment rest : List Char} (cut : FirstCut segment rest) :
    EndsOpen (segment ++ rest) ↔ IsOpen segment ∨ EndsOpen rest := by
  unfold EndsOpen
  rw [colonSegments_of_firstCut cut]
  by_cases empty : rest = []
  · subst empty
    simp [colonSegments]
  · rw [List.getLast?_cons_of_ne_nil (colonSegments_ne_nil empty)]
    exact (or_iff_right fun opened => empty (cut.eq_nil_of_isOpen opened)).symm

/-- **Scanning on.** Where nothing is open, the scan goes on at a colon as if it began there. -/
theorem colonSegments_append_of_closed {text : List Char} (closed : ¬ EndsOpen text)
    (more : List Char) :
    colonSegments (text ++ ':' :: more) = colonSegments text ++ colonSegments (':' :: more) := by
  fun_induction colonSegments text with
  | case1 => rfl
  | case2 char rest ih =>
      have cut := firstCut_firstSegment char rest
      rw [← append_of_firstSegment char rest, endsOpen_iff_of_firstCut cut, not_or] at closed
      rw [← append_of_firstSegment char rest, List.append_assoc,
        colonSegments_of_firstCut (cut.append closed.1 more), ih closed.2, List.cons_append]

/-- Where a piece is open, the colon closes it. -/
theorem colonSegments_append_of_open {text : List Char} (opened : EndsOpen text)
    (more : List Char) :
    ∃ earlier name, colonSegments text = earlier ++ [':' :: name] ∧
      colonSegments (text ++ ':' :: more) = earlier ++ wrapped name :: colonSegments more := by
  fun_induction colonSegments text with
  | case1 => exact absurd opened not_endsOpen_nil
  | case2 char rest ih =>
      have cut := firstCut_firstSegment char rest
      rw [← append_of_firstSegment char rest, endsOpen_iff_of_firstCut cut] at opened
      rw [← append_of_firstSegment char rest]
      rcases opened with now | later
      · have nothing := cut.eq_nil_of_isOpen now
        obtain ⟨name, visible, plain, same⟩ := now
        refine ⟨[], name, ?_, ?_⟩
        · rw [nothing, same, colonSegments, List.nil_append]
        · have whole : ':' :: name ++ [] ++ ':' :: more = wrapped name ++ more := by
            simp [wrapped]
          rw [nothing, same, whole, colonSegments_of_firstCut (.wrapped visible plain),
            List.nil_append]
      · obtain ⟨earlier, name, segments, scanned⟩ := ih later
        have closed : ¬ IsOpen (firstSegment char rest).1 := by
          intro opened
          rw [cut.eq_nil_of_isOpen opened] at later
          exact not_endsOpen_nil later
        refine ⟨(firstSegment char rest).1 :: earlier, name, ?_, ?_⟩
        · rw [segments, List.cons_append]
        · rw [List.append_assoc, colonSegments_of_firstCut (cut.append closed more), scanned,
            List.cons_append]

/-- A name between colons is a segment of its own just when nothing is open in front of it. -/
theorem colonSegments_append_wrapped_iff {name : List Char} (visible : name ≠ [])
    (plain : ':' ∉ name) (front back : List Char) :
    colonSegments (front ++ wrapped name ++ back) =
        colonSegments front ++ wrapped name :: colonSegments back ↔ ¬ EndsOpen front := by
  have whole : front ++ wrapped name ++ back = front ++ ':' :: (name ++ ':' :: back) := by
    simp [wrapped]
  constructor
  · intro same opened
    obtain ⟨earlier, piece, segments, scanned⟩ :=
      colonSegments_append_of_open opened (name ++ ':' :: back)
    rw [whole, scanned, segments, List.append_assoc, List.append_cancel_left_eq] at same
    have closed := (List.cons.inj same).1
    simp [wrapped] at closed
  · intro closed
    have behind : ':' :: (name ++ ':' :: back) = wrapped name ++ back := by simp [wrapped]
    rw [whole, colonSegments_append_of_closed closed, behind,
      colonSegments_of_firstCut (.wrapped visible plain)]

/-- A text without colons ends in no open piece. -/
theorem not_endsOpen_of_plain {lead : List Char} (plain : ':' ∉ lead) : ¬ EndsOpen lead := by
  rintro ⟨segment, last, name, -, -, rfl⟩
  rw [← flatten_colonSegments lead] at plain
  exact plain (List.mem_flatten.mpr ⟨_, List.mem_of_getLast? last, List.mem_cons_self⟩)

theorem not_endsOpen_concat {text : List Char} (closed : ¬ EndsOpen text) :
    ¬ EndsOpen (text ++ [':']) := by
  have single : colonSegments [':'] = [[':']] := by
    change colonSegments ([':'] ++ []) = _
    rw [colonSegments_of_firstCut (.lone fun char first => by cases first), colonSegments]
  rintro ⟨segment, last, name, visible, -, rfl⟩
  rw [colonSegments_append_of_closed closed, single, List.getLast?_concat] at last
  exact visible (List.cons.inj (Option.some.inj last)).2.symm

/-- A run of colons behind a text without colons leaves nothing open. -/
theorem not_endsOpen_of_colons {lead : List Char} (plain : ':' ∉ lead) (count : Nat) :
    ¬ EndsOpen (lead ++ List.replicate count ':') := by
  induction count with
  | zero =>
      rw [List.replicate_zero, List.append_nil]
      exact not_endsOpen_of_plain plain
  | succ count ih =>
      rw [List.replicate_succ', ← List.append_assoc]
      exact not_endsOpen_concat ih

section Pieces

variable {cache : EmoteCache} {name : List Char} {emote : Emote}

theorem length_le_byteLength (text : List Char) : text.length ≤ byteLength text := by
  induction text with
  | nil => exact Nat.le_refl _
  | cons char rest ih =>
      have size := char.utf8Size_pos
      change rest.length + 1 ≤ char.utf8Size + byteLength rest
      omega

theorem isColonWrapped_wrapped (visible : name ≠ []) : isColonWrapped (wrapped name) = true := by
  have letters := List.length_pos_of_ne_nil visible
  have size := length_le_byteLength (wrapped name)
  have count : (wrapped name).length = name.length + 2 := by simp [wrapped]
  have ends : (wrapped name).getLast? = some ':' := List.getLast?_concat ..
  rw [isColonWrapped, ends, Bool.and_eq_true, Bool.and_eq_true, decide_eq_true_eq]
  exact ⟨⟨by omega, rfl⟩, rfl⟩

theorem segmentPiece_of_cached (visible : name ≠ [])
    (cached : cache.get? (String.ofList (wrapped name)) = some emote) (opensWord : Bool) :
    segmentPiece cache opensWord (wrapped name) = .picture (wrapped name) emote := by
  rw [segmentPiece, if_pos (isColonWrapped_wrapped visible), cached]

/-- A word that is not cached itself shows a cached name between colons that is a segment of it. -/
theorem exists_wordPieces {word : List Char} {earlier later : List (List Char)}
    (visible : name ≠ []) (uncached : cache.get? (String.ofList word) = none)
    (cached : cache.get? (String.ofList (wrapped name)) = some emote)
    (segments : colonSegments word = earlier ++ wrapped name :: later) :
    ∃ left right, wordPieces cache word = left ++ .picture (wrapped name) emote :: right ∧
      left.flatMap Piece.chars = earlier.flatten ∧ right.flatMap Piece.chars = later.flatten := by
  have shown := segmentPiece_of_cached visible cached
  have kept (parts : List (List Char)) :
      (parts.map (segmentPiece cache false)).flatMap Piece.chars = parts.flatten := by
    rw [List.flatMap_map]
    simp only [chars_of_segmentPiece, List.flatMap_id']
  rw [wordPieces, uncached, segments]
  cases earlier with
  | nil =>
      refine ⟨[], later.map (segmentPiece cache false), ?_, rfl, kept later⟩
      dsimp only [List.nil_append]
      rw [shown]
  | cons first others =>
      refine ⟨segmentPiece cache true first :: others.map (segmentPiece cache false),
        later.map (segmentPiece cache false), ?_, ?_, kept later⟩
      · dsimp only [List.cons_append]
        rw [List.map_append, List.map_cons, shown]
      · rw [List.flatMap_cons, chars_of_segmentPiece, kept, List.flatten_cons]

end Pieces

/-- **Names between colons.** A name between colons is scanned as one segment between what is in
front of it and what is behind it if and only if nothing is open in front of it. So it is when
nothing but a run of colons stands there, behind a text without colons. In a word of the body that
is not cached itself, such a name is shown in its place as one picture if it is cached. -/
theorem wrapped_name_stays_whole {name : List Char} (visible : name ≠ []) (plain : ':' ∉ name)
    (front back : List Char) :
    (colonSegments (front ++ wrapped name ++ back) =
        colonSegments front ++ wrapped name :: colonSegments back ↔ ¬ EndsOpen front) ∧
    (∀ lead count, ':' ∉ lead → front = lead ++ List.replicate count ':' → ¬ EndsOpen front) ∧
    ∀ (cache : EmoteCache) (text : String) (before after : List (List Char)) (emote : Emote),
      ¬ EndsOpen front →
      IsBodyWord text before (front ++ wrapped name ++ back) after →
      cache.get? (String.ofList (front ++ wrapped name ++ back)) = none →
      cache.get? (String.ofList (wrapped name)) = some emote →
      ShowsPictureAt cache text (before.flatten ++ front) (wrapped name) emote
        (back ++ after.flatten) := by
  have whole := colonSegments_append_wrapped_iff visible plain front back
  refine ⟨whole, ?_, ?_⟩
  · rintro lead count noColon rfl
    exact not_endsOpen_of_colons noColon count
  · intro cache text before after emote closed place uncached cached
    obtain ⟨left, right, pieces, ahead, behind⟩ :=
      exists_wordPieces visible uncached cached (whole.mpr closed)
    have shown := showsPictureAt_of_pieces place pieces
    rwa [ahead, behind, flatten_colonSegments, flatten_colonSegments] at shown

def hog : Emote := { Emote.empty with name := ":hog:" }

/-- A word behind markup, with colons around the wrapped name. -/
theorem wrapped_name_stays_whole_hog :
    "hog".toList ≠ [] ∧ ':' ∉ "hog".toList ∧ ¬ EndsOpen "abc::".toList ∧
    colonSegments ("abc::".toList ++ wrapped "hog".toList ++ "::x".toList) =
      colonSegments "abc::".toList ++ wrapped "hog".toList :: colonSegments "::x".toList ∧
    ShowsPictureAt (.insertAll .empty [hog]) "red: oh abc:::hog:::x yes" "ohabc::".toList
      ":hog:".toList hog "::xyes".toList := by
  have visible : "hog".toList ≠ [] := by decide
  have plain : ':' ∉ "hog".toList := by decide
  obtain ⟨scanned, colons, pictured⟩ :=
    wrapped_name_stays_whole visible plain "abc::".toList "::x".toList
  have closed : ¬ EndsOpen "abc::".toList := colons "abc".toList 2 (by decide) rfl
  have place : IsBodyWord "red: oh abc:::hog:::x yes" ["oh".toList]
      ("abc::".toList ++ wrapped "hog".toList ++ "::x".toList) ["yes".toList] :=
    ⟨by decide +kernel, fun leading => by cases leading.1⟩
  exact ⟨visible, plain, closed, scanned.mpr closed,
    pictured (.insertAll .empty [hog]) _ _ _ hog closed place (by decide +kernel)
      (by decide +kernel)⟩

end LiveChat.Chat
