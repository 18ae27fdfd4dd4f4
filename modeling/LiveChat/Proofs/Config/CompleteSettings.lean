import LiveChat.Config.Normalize
import LiveChat.Proofs.Store.Queries
import LiveChat.Proofs.Text.Blanks

/-!
# Complete settings

Settings are sound if every check passes, and then they are completed: in five of their fields, and
there only what is missing (`Settings.normalize_eq_ok_iff`). What comes out is complete
(`Settings.IsSound.isComplete`), and complete settings are left as they are
(`Settings.IsCompletionOf.eq_of_isComplete`), so that one completion is enough (`Settings.normalize_once`).
-/

namespace LiveChat.Config

open LiveChat.Text

/-- A further setting of the store as it must be written: a name and a value on both sides of the
first equals sign, with nothing but letters, digits and a few marks in them. -/
def IsPragma (entry : String) : Prop :=
  ∃ left right, entry.toList = left ++ '=' :: right ∧ '=' ∉ left ∧
    trim left ≠ [] ∧ trim right ≠ [] ∧
    (∀ char ∈ trim left, StorageSettings.isPragmaKeyChar char = true) ∧
    ∀ char ∈ trim right, StorageSettings.isPragmaValueChar char = true

theorem exists_mapM_iff {α β : Type} {read : α → Result β} {items : List α} :
    (∃ found, items.mapM read = .ok found) ↔ ∀ item ∈ items, ∃ value, read item = .ok value := by
  induction items with
  | nil => exact ⟨fun _ _ member => absurd member List.not_mem_nil, fun _ => ⟨[], rfl⟩⟩
  | cons item rest ih =>
      rw [List.forall_mem_cons, ← ih]
      constructor
      · rintro ⟨found, done⟩
        rw [List.mapM_cons] at done
        obtain ⟨value, here, done⟩ := bind_eq_ok.mp done
        obtain ⟨values, later, -⟩ := bind_eq_ok.mp done
        exact ⟨⟨value, here⟩, values, later⟩
      · rintro ⟨⟨value, here⟩, values, later⟩
        refine ⟨value :: values, ?_⟩
        rw [List.mapM_cons, here, later]
        rfl

namespace StorageSettings

theorem exists_readPragma_iff {entry : String} :
    (∃ setting, readPragma entry = .ok setting) ↔ IsPragma entry := by
  constructor
  · rintro ⟨setting, read⟩
    unfold readPragma at read
    split at read
    · cases read
    · rename_i left right cut
      obtain ⟨whole, first⟩ := splitOnce_eq_some_iff.mp cut
      dsimp only at read
      split at read
      · cases read
      · rename_i visible
        split at read
        · cases read
        · rename_i plain
          obtain ⟨keyVisible, valueVisible⟩ := not_or.mp visible
          simp only [Bool.not_eq_true, Bool.not_eq_false', Bool.and_eq_true,
            List.all_eq_true] at plain
          exact ⟨left, right, whole, first, keyVisible, valueVisible, plain.1, plain.2⟩
  · rintro ⟨left, right, whole, first, keyVisible, valueVisible, key, value⟩
    have cut := splitOnce_eq_some_iff.mpr ⟨whole, first⟩
    have plain : ((trim left).all isPragmaKeyChar && (trim right).all isPragmaValueChar) = true := by
      rw [Bool.and_eq_true, List.all_eq_true, List.all_eq_true]
      exact ⟨key, value⟩
    refine ⟨(String.ofList (trim left), String.ofList (trim right)), ?_⟩
    simp only [readPragma, cut, keyVisible, valueVisible, or_self, if_false, plain, Bool.not_true,
      Bool.false_eq_true]

variable {storage : StorageSettings}

theorem exists_extraPragmas_iff :
    (∃ pragmas, storage.extraPragmas = .ok pragmas) ↔ ∀ entry ∈ storage.pragmas, IsPragma entry := by
  simp only [extraPragmas, exists_mapM_iff, exists_readPragma_iff]

theorem exists_resolvedPath_iff {fallback : String} :
    (∃ path, storage.resolvedPath fallback = .ok path) ↔
      (storage.mode = .persistent → storage.path ≠ none) := by
  obtain ⟨mode, path, _, _, _⟩ := storage
  cases mode <;> cases path <;> simp [resolvedPath]

end StorageSettings

namespace Settings

variable {settings result : Settings} {fallback path : String}

/-- Every check passes. -/
structure IsSound (settings : Settings) : Prop where
  located : settings.storage.mode = .persistent → settings.storage.path ≠ none
  pragmas : ∀ entry ∈ settings.storage.pragmas, IsPragma entry
  backoffBase : 0 < settings.ingest.backoffBaseMs
  queueCapacity : 0 < settings.websocket.queueCapacity
  pingInterval : 0 < settings.websocket.pingIntervalMs
  pongWait : 0 < settings.websocket.pongWaitMs
  writeDeadline : 0 < settings.websocket.writeDeadlineMs

/-- Every check passes, and nothing is missing. -/
structure IsComplete (settings : Settings) : Prop extends IsSound settings where
  interval : 0 < settings.tailer.intervalMs
  batch : 0 < settings.tailer.batch
  offsetPath : settings.tailer.persistOffsets = true → settings.tailer.offsetPath ≠ none
  backoffMax : settings.ingest.backoffBaseMs ≤ settings.ingest.backoffMaxMs
  chatUrls : ∀ url ∈ settings.ingest.chatUrls, isBlankText url = false

/-- The settings of a store at a path with what was missing. -/
def completed (settings : Settings) (path : String) : Settings :=
  { settings with
    tailer := completeTailer settings.tailer path
    ingest := completeIngest settings.ingest }

theorem requirePositive_eq_ok_iff {checks : List (String × Nat)} :
    requirePositive checks = .ok () ↔ ∀ check ∈ checks, 0 < check.2 := by
  induction checks with
  | nil => exact ⟨fun _ _ member => absurd member List.not_mem_nil, fun _ => rfl⟩
  | cons check rest ih =>
      rw [requirePositive, List.forall_mem_cons, ← ih, Nat.pos_iff_ne_zero]
      by_cases zero : check.2 = 0
      · rw [if_pos zero]
        exact ⟨(nomatch ·), fun passed => absurd zero passed.1⟩
      · rw [if_neg zero]
        exact ⟨fun passed => ⟨zero, passed⟩, fun passed => passed.2⟩

/-- Settings are sound if none of the checks fails. -/
theorem isSound_iff (fallback : String) : settings.IsSound ↔
    (∃ path, settings.storage.resolvedPath fallback = .ok path) ∧
      (∃ pragmas, settings.storage.extraPragmas = .ok pragmas) ∧
      requirePositive [("ingest.backoff_base_ms", settings.ingest.backoffBaseMs)] = .ok () ∧
      requirePositive (positiveKeys settings.websocket) = .ok () := by
  simp only [StorageSettings.exists_resolvedPath_iff, StorageSettings.exists_extraPragmas_iff,
    requirePositive_eq_ok_iff, positiveKeys, List.forall_mem_cons, List.not_mem_nil,
    false_implies, implies_true, and_true]
  constructor
  · rintro ⟨located, pragmas, backoffBase, queueCapacity, pingInterval, pongWait, writeDeadline⟩
    exact ⟨located, pragmas, backoffBase, queueCapacity, pingInterval, pongWait, writeDeadline⟩
  · rintro ⟨located, pragmas, backoffBase, queueCapacity, pingInterval, pongWait, writeDeadline⟩
    exact ⟨located, pragmas, backoffBase, queueCapacity, pingInterval, pongWait, writeDeadline⟩

/-- **Completing settings.** It succeeds just for sound settings, and then returns them with what
was missing. -/
theorem normalize_eq_ok_iff : settings.normalize fallback = .ok result ↔
    settings.IsSound ∧
      ∃ path, settings.storage.resolvedPath fallback = .ok path ∧
        result = settings.completed path := by
  rw [isSound_iff fallback, normalize, normalizeStep]
  cases settings.storage.resolvedPath fallback with
  | error fault => simp
  | ok path =>
      cases settings.storage.extraPragmas with
      | error fault => simp
      | ok pragmas =>
          cases base : requirePositive [("ingest.backoff_base_ms", settings.ingest.backoffBaseMs)] with
          | error fault => simp [base]
          | ok =>
              cases others : requirePositive (positiveKeys settings.websocket) with
              | error fault => simp [base, others]
              | ok => simp [base, others, completed, eq_comm]

/-- What comes out is complete. -/
theorem IsSound.isComplete (sound : settings.IsSound) (path : String) :
    (settings.completed path).IsComplete where
  located := sound.located
  pragmas := sound.pragmas
  backoffBase := sound.backoffBase
  queueCapacity := sound.queueCapacity
  pingInterval := sound.pingInterval
  pongWait := sound.pongWait
  writeDeadline := sound.writeDeadline
  interval := by
    simp only [completed, completeTailer]
    split <;> omega
  batch := by
    simp only [completed, completeTailer]
    split <;> omega
  offsetPath persists := by
    have kept : settings.tailer.persistOffsets = true := persists
    simp only [completed, completeTailer]
    split
    case isTrue => exact Option.some_ne_none _
    case isFalse given => exact fun missing => given ⟨kept, missing⟩
  backoffMax := Nat.le_max_right _ _
  chatUrls url member := by
    have visible := (List.mem_filter.mp member).2
    rwa [Bool.not_eq_true'] at visible

/-- Settings that come out of others: in five fields something may have been missing, and what was
not missing is kept. -/
structure IsCompletionOf (result settings : Settings) : Prop where
  frame : result =
    { settings with
      tailer :=
        { settings.tailer with
          intervalMs := result.tailer.intervalMs
          batch := result.tailer.batch
          offsetPath := result.tailer.offsetPath }
      ingest :=
        { settings.ingest with
          chatUrls := result.ingest.chatUrls
          backoffMaxMs := result.ingest.backoffMaxMs } }
  interval : 0 < settings.tailer.intervalMs →
    result.tailer.intervalMs = settings.tailer.intervalMs
  batch : 0 < settings.tailer.batch → result.tailer.batch = settings.tailer.batch
  offsetPath : (settings.tailer.persistOffsets = true → settings.tailer.offsetPath ≠ none) →
    result.tailer.offsetPath = settings.tailer.offsetPath
  backoffMax : settings.ingest.backoffBaseMs ≤ settings.ingest.backoffMaxMs →
    result.ingest.backoffMaxMs = settings.ingest.backoffMaxMs
  chatUrls : result.ingest.chatUrls =
    settings.ingest.chatUrls.filter fun url => !isBlankText url
  keptUrls : (∀ url ∈ settings.ingest.chatUrls, isBlankText url = false) →
    result.ingest.chatUrls = settings.ingest.chatUrls

theorem isCompletionOf_completed (settings : Settings) (path : String) :
    (settings.completed path).IsCompletionOf settings where
  frame := rfl
  interval positive := if_neg (Nat.ne_of_gt positive)
  batch positive := if_neg (Nat.ne_of_gt positive)
  offsetPath given := if_neg fun missing => given missing.1 missing.2
  backoffMax enough := Nat.max_eq_left enough
  chatUrls := rfl
  keptUrls visible := by
    refine List.filter_eq_self.mpr fun url member => ?_
    rw [visible url member, Bool.not_false]

/-- Complete settings are left as they are. -/
theorem IsCompletionOf.eq_of_isComplete (completion : result.IsCompletionOf settings)
    (complete : settings.IsComplete) : result = settings := by
  rw [completion.frame, completion.interval complete.interval, completion.batch complete.batch,
    completion.offsetPath complete.offsetPath, completion.backoffMax complete.backoffMax,
    completion.keptUrls complete.chatUrls]

/-- **Completing once.** It fails if and only if some check does. Otherwise complete settings come
out, for which the place of the store and its further settings are known. They differ from the given
ones at most in the interval, the batch and the offset path of the tailer, in the longest delay and
in the addresses, and there only where something was missing; of the addresses, those that are not
blank are left in their order. To complete them again changes nothing. -/
theorem normalize_once (settings : Settings) (fallback : String) :
    ((∃ fault, settings.normalize fallback = .error fault) ↔ ¬ settings.IsSound) ∧
    ∀ result, settings.normalize fallback = .ok result →
      result.IsComplete ∧
      (∃ path, result.storage.resolvedPath fallback = .ok path) ∧
      (∃ pragmas, result.storage.extraPragmas = .ok pragmas) ∧
      result.IsCompletionOf settings ∧
      ∀ other, result.normalize other = .ok result := by
  constructor
  · constructor
    · rintro ⟨fault, failed⟩ sound
      obtain ⟨⟨path, located⟩, -⟩ := (isSound_iff fallback).mp sound
      rw [normalize_eq_ok_iff.mpr ⟨sound, path, located, rfl⟩] at failed
      cases failed
    · intro unsound
      cases outcome : settings.normalize fallback with
      | error fault => exact ⟨fault, rfl⟩
      | ok result => exact absurd (normalize_eq_ok_iff.mp outcome).1 unsound
  · intro result done
    obtain ⟨sound, path, -, rfl⟩ := normalize_eq_ok_iff.mp done
    have complete := sound.isComplete path
    have again := complete.toIsSound
    obtain ⟨found, pragmas, -⟩ := (isSound_iff fallback).mp again
    refine ⟨complete, found, pragmas, isCompletionOf_completed settings path, fun other => ?_⟩
    obtain ⟨⟨place, located⟩, -⟩ := (isSound_iff other).mp again
    have same := (isCompletionOf_completed _ place).eq_of_isComplete complete
    exact normalize_eq_ok_iff.mpr ⟨again, place, located, same.symm⟩

end Settings

end LiveChat.Config
