import LiveChat.Chat.EmoteFile
import LiveChat.Proofs.Chat.EmoteCache

/-!
# What a cache remembers of its history

A cache is filled by messages, which bring emotes along, and from files. However it was filled, it
has the newest emote of each name among the last emotes that came, and nothing else: those from some
point of its history on (`EmoteCache.Remembers`). Filing an emote either goes on from that point or
begins again with that emote (`EmoteCache.Remembers.insert`), and what is filed from a file is what the
file holds, or nothing (`EmoteCache.loadFile_eq`). So the cache has no more names than it may have,
and never an outdated emote (`EmoteCache.remembers_newest`).
-/

namespace LiveChat.Chat.EmoteCache

open LiveChat.Json

/-- The newest emote of a name, among emotes in the order in which they came. -/
def newest? (emotes : List Emote) (name : String) : Option Emote :=
  emotes.reverse.find? fun emote => emote.name == name

/-- The emotes that can be filed under their name. -/
def named (emotes : List Emote) : List Emote := emotes.filter fun emote => emote.name != ""

/-- A way of filling a cache. -/
inductive Filling where
  | emotes (given : List Emote)
  | file (state : FileState)

/-- The emotes that a filling brings. A file that cannot be read brings none. -/
def Filling.brings : Filling → List Emote
  | .emotes given => given
  | .file state =>
      match state.readText with
      | .ok text => (decodeText (Outline.asList Emote.decode) text).toOption.getD []
      | .error _ => []

/-- The cache after a filling. -/
def fill (cache : EmoteCache) : Filling → EmoteCache
  | .emotes given => cache.insertAll given
  | .file state =>
      match cache.loadFile state with
      | .ok (_, filled) => filled
      | .error _ => cache

variable {cache : EmoteCache} {emotes history : List Emote} {emote : Emote} {name : String}

section Newest

theorem newest?_append_self (emotes : List Emote) (emote : Emote) :
    newest? (emotes ++ [emote]) emote.name = some emote := by
  rw [newest?, List.reverse_append, List.reverse_singleton, List.singleton_append]
  exact List.find?_cons_of_pos (beq_self_eq_true emote.name)

theorem newest?_append_of_ne (emotes : List Emote) (other : emote.name ≠ name) :
    newest? (emotes ++ [emote]) name = newest? emotes name := by
  rw [newest?, List.reverse_append, List.reverse_singleton, List.singleton_append,
    List.find?_cons_of_neg (by rwa [beq_iff_eq]), newest?]

theorem mem_of_newest? (found : newest? emotes name = some emote) : emote ∈ emotes :=
  List.mem_reverse.mp (List.mem_of_find?_eq_some found)

theorem name_of_newest? (found : newest? emotes name = some emote) : emote.name = name := by
  have same := List.find?_some found
  rwa [beq_iff_eq] at same

/-- What is newest among the last emotes is newest among all. -/
theorem newest?_of_suffix {recent : List Emote} (suffix : recent <:+ history)
    (found : newest? recent name = some emote) : newest? history name = some emote := by
  obtain ⟨before, rfl⟩ := suffix
  rw [newest?, List.reverse_append, List.find?_append]
  rw [newest?] at found
  rw [found, Option.some_or]

end Newest

section Held

theorem size_insert_of_keeps (visible : emote.name ≠ "") (keeps : cache.clearsFor emote = false) :
    (cache.insert emote).size =
      if cache.contains emote.name = true then cache.size else cache.size + 1 := by
  rw [insert_of_keeps visible keeps]
  exact Std.ExtTreeMap.size_insert

/-- Filing an emote whose name the cache has takes away no name and adds none. -/
theorem contains_insert_of_held (held : emote.name ≠ "" → cache.contains emote.name = true)
    (name : String) : (cache.insert emote).contains name = cache.contains name := by
  by_cases unnamed : emote.name = ""
  · rw [insert_of_unnamed unnamed]
  · have keeps : cache.clearsFor emote = false := by simp [clearsFor, held unnamed]
    by_cases same : emote.name = name
    · subst same
      rw [contains_insert keeps (held unnamed), held unnamed]
    · rw [contains_eq_isSome, get?_insert_of_ne same, keeps, if_neg Bool.false_ne_true,
        contains_eq_isSome]

theorem size_insert_of_held (held : emote.name ≠ "" → cache.contains emote.name = true) :
    (cache.insert emote).size = cache.size := by
  by_cases unnamed : emote.name = ""
  · rw [insert_of_unnamed unnamed]
  · have keeps : cache.clearsFor emote = false := by simp [clearsFor, held unnamed]
    rw [size_insert_of_keeps unnamed keeps, if_pos (held unnamed)]

theorem insertAll_of_held
    (held : ∀ emote ∈ emotes, emote.name ≠ "" → cache.contains emote.name = true) :
    (cache.insertAll emotes).size = cache.size ∧
      ∀ name, (cache.insertAll emotes).contains name = cache.contains name := by
  induction emotes generalizing cache with
  | nil => exact ⟨rfl, fun _ => rfl⟩
  | cons emote rest ih =>
      have here := held emote List.mem_cons_self
      have same := contains_insert_of_held here
      have later (other : Emote) (member : other ∈ rest) (visible : other.name ≠ "") :
          (cache.insert emote).contains other.name = true :=
        (same other.name).trans (held other (List.mem_cons_of_mem _ member) visible)
      obtain ⟨size, contains⟩ := ih later
      exact ⟨size.trans (size_insert_of_held here), fun name => (contains name).trans (same name)⟩

end Held

/-- What a cache has of the emotes that came to it: no more names than it has room for, and of the
last emotes the newest of each name. -/
structure Remembers (cache : EmoteCache) (history : List Emote) : Prop where
  roomy : 0 < cache.capacity
  bounded : cache.size ≤ cache.capacity
  recent : ∃ recent, recent <:+ history ∧ (history ≠ [] → recent ≠ []) ∧
    ∀ name, cache.get? name = newest? recent name

namespace Remembers

theorem withCapacity (capacity : Nat) : (withCapacity capacity).Remembers [] where
  roomy := Nat.lt_of_lt_of_le Nat.one_pos (Nat.le_max_right capacity 1)
  bounded := Nat.zero_le _
  recent := ⟨[], List.suffix_rfl, fun some => absurd rfl some, fun _ =>
    Std.ExtTreeMap.getElem?_empty⟩

/-- A cache that is emptied for an emote begins its history with it; otherwise the history goes
on. -/
theorem insert (remembers : cache.Remembers history) (visible : emote.name ≠ "") :
    (cache.insert emote).Remembers (history ++ [emote]) := by
  obtain ⟨roomy, bounded, recent, suffix, -, newest⟩ := remembers
  by_cases clears : cache.clearsFor emote = true
  · refine ⟨by rwa [capacity_insert], ?_, [emote], List.suffix_append _ _, fun _ => by simp, ?_⟩
    · rw [capacity_insert, insert_of_clears clears, size, Std.ExtTreeMap.size_insert,
        Std.ExtTreeMap.contains_empty, Std.ExtTreeMap.size_empty]
      exact roomy
    · intro name
      by_cases same : emote.name = name
      · subst same
        exact (get?_insert_self visible).trans (newest?_append_self [] emote).symm
      · rw [get?_insert_of_ne same, if_pos clears]
        exact (newest?_append_of_ne [] same).symm
  · obtain ⟨before, rfl⟩ := suffix
    refine ⟨by rwa [capacity_insert], ?_, recent ++ [emote], ⟨before, by rw [List.append_assoc]⟩,
      fun _ => by simp, ?_⟩
    · have keeps := Bool.eq_false_iff.mpr clears
      rw [size_insert_of_keeps visible keeps, capacity_insert]
      split
      case isTrue held => exact bounded
      case isFalse fresh =>
        have room : ¬ cache.capacity ≤ cache.size := by
          simpa [clearsFor, visible, Bool.eq_false_iff.mpr fresh] using keeps
        exact Nat.lt_of_not_le room
    · intro name
      by_cases same : emote.name = name
      · subst same
        rw [get?_insert_self visible, newest?_append_self]
      · rw [get?_insert_of_ne same, if_neg clears, newest?_append_of_ne recent same, newest]

theorem insertAll (remembers : cache.Remembers history) (emotes : List Emote) :
    (cache.insertAll emotes).Remembers (history ++ named emotes) := by
  induction emotes generalizing cache history with
  | nil => rwa [named, List.filter_nil, List.append_nil]
  | cons emote rest ih =>
      by_cases unnamed : emote.name = ""
      · have skipped : named (emote :: rest) = named rest := by simp [named, unnamed]
        rw [skipped]
        change ((cache.insert emote).insertAll rest).Remembers _
        rw [insert_of_unnamed unnamed]
        exact ih remembers
      · have taken : named (emote :: rest) = [emote] ++ named rest := by simp [named, unnamed]
        rw [taken, ← List.append_assoc]
        exact ih (remembers.insert unnamed)

end Remembers

/-- A file is filed as a whole or not at all. -/
theorem loadFile_eq (cache : EmoteCache) (state : FileState) :
    let brought := (Filling.file state).brings
    cache.fill (.file state) = cache.insertAll brought ∧
      (cache.loadFile state = .ok (brought.length, cache.insertAll brought) ∨
        brought = [] ∧ ∃ failure, cache.loadFile state = .error failure) := by
  cases readable : state.readText with
  | error reason =>
      have failed : cache.loadFile state = .error (.io reason) := by simp only [loadFile, readable]
      have nothing : (Filling.file state).brings = [] := by simp only [Filling.brings, readable]
      refine ⟨?_, .inr ⟨nothing, _, failed⟩⟩
      simp only [fill, failed, nothing]
      rfl
  | ok text =>
      have loaded : cache.loadFile state = cache.loadText text := by simp only [loadFile, readable]
      have brought : (Filling.file state).brings =
          (decodeText (Outline.asList Emote.decode) text).toOption.getD [] := by
        simp only [Filling.brings, readable]
      simp only [fill, loaded, brought, loadText]
      cases decodeText (Outline.asList Emote.decode) text with
      | ok emotes => exact ⟨rfl, .inl rfl⟩
      | error fault => exact ⟨rfl, .inr ⟨rfl, _, rfl⟩⟩

theorem capacity_fill (cache : EmoteCache) (filling : Filling) :
    (cache.fill filling).capacity = cache.capacity := by
  cases filling with
  | emotes given => exact capacity_insertAll given
  | file state => rw [(cache.loadFile_eq state).1, capacity_insertAll]

theorem capacity_fillAll (fillings : List Filling) :
    (fillings.foldl fill cache).capacity = cache.capacity := by
  induction fillings generalizing cache with
  | nil => rfl
  | cons filling rest ih => exact ih.trans (capacity_fill cache filling)

theorem Remembers.fill (remembers : cache.Remembers history) (filling : Filling) :
    (cache.fill filling).Remembers (history ++ named filling.brings) := by
  cases filling with
  | emotes given => exact remembers.insertAll given
  | file state =>
      rw [(cache.loadFile_eq state).1]
      exact remembers.insertAll _

theorem Remembers.fillAll (remembers : cache.Remembers history) (fillings : List Filling) :
    (fillings.foldl EmoteCache.fill cache).Remembers
      (history ++ named (fillings.flatMap Filling.brings)) := by
  induction fillings generalizing cache history with
  | nil => rwa [List.flatMap_nil, named, List.filter_nil, List.append_nil]
  | cons filling rest ih =>
      rw [List.flatMap_cons, named, List.filter_append, ← List.append_assoc]
      exact ih (remembers.fill filling)

/-- **Caches and their history.** However a cache was filled, it has at most as many names as it may
have, and its contents are the newest emotes of the names among the last emotes that came. So each of
them is filed under its own name, and no newer one of that name has come; the last emote that came is
among them. Filing emotes whose names the cache has takes away no name. A file is filed as a whole, or
not at all if it cannot be read. -/
theorem remembers_newest (capacity : Nat) (fillings : List Filling) :
    let cache := fillings.foldl fill (withCapacity capacity)
    let history := named (fillings.flatMap Filling.brings)
    cache.size ≤ max capacity 1 ∧
    (∃ recent, recent <:+ history ∧ ∀ name, cache.get? name = newest? recent name) ∧
    (∀ name emote, cache.get? name = some emote →
      name ≠ "" ∧ emote.name = name ∧ newest? history name = some emote) ∧
    (∀ last, history.getLast? = some last → cache.get? last.name = some last) ∧
    (∀ again, (∀ emote ∈ again, emote.name ≠ "" → cache.contains emote.name = true) →
      (cache.insertAll again).size = cache.size ∧
        ∀ name, (cache.insertAll again).contains name = cache.contains name) ∧
    ∀ state, cache.loadFile state =
          .ok ((Filling.file state).brings.length, cache.fill (.file state)) ∨
        (∃ failure, cache.loadFile state = .error failure) ∧ cache.fill (.file state) = cache := by
  intro cache history
  have remembers : cache.Remembers history :=
    (Remembers.withCapacity capacity).fillAll fillings
  have bound : cache.capacity = max capacity 1 := capacity_fillAll fillings
  obtain ⟨-, bounded, recent, suffix, some, newest⟩ := remembers
  refine ⟨bound ▸ bounded, ⟨recent, suffix, newest⟩, fun name emote found => ?_,
    fun last ended => ?_, fun again held => insertAll_of_held held, fun state => ?_⟩
  · rw [newest] at found
    have own := name_of_newest? found
    have member := suffix.subset (mem_of_newest? found)
    have visible := (List.mem_filter.mp member).2
    rw [bne_iff_ne, own] at visible
    exact ⟨visible, own, newest?_of_suffix suffix found⟩
  · obtain ⟨front, whole⟩ := List.getLast?_eq_some_iff.mp ended
    obtain ⟨before, cut⟩ := suffix
    have more : recent ≠ [] := some (by rw [whole]; exact List.concat_ne_nil last front)
    rw [whole, ← List.dropLast_append_getLast more, ← List.append_assoc] at cut
    have same : recent.getLast more = last :=
      List.singleton_inj.mp (List.append_inj_right' cut rfl)
    rw [newest, ← List.dropLast_append_getLast more, same]
    exact newest?_append_self _ last
  · obtain ⟨filled, loaded | ⟨nothing, failed⟩⟩ := cache.loadFile_eq state
    · exact .inl (filled ▸ loaded)
    · refine .inr ⟨failed, ?_⟩
      rw [filled, nothing]
      rfl

end LiveChat.Chat.EmoteCache
