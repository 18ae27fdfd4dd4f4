import LiveChat.Proofs.Delivery.Broadcast
import LiveChat.Proofs.Store.OffsetFile
import Mathlib.Algebra.Group.Nat.Defs

/-!
# One tailer after the other

Tailers take turns on one store and one position file, in one process or in processes that follow
each other, while other writers add rows. A tailer that finds a position in the file goes on from
there, and any other begins at the end of the log, which makes history of all rows that are in it.
As soon as a tailer has found rows the file holds a position, and from then on nothing becomes
history any more (`Succession.Sound.history_run`).
-/

namespace LiveChat

namespace Store

open LiveChat.Time

/-- The clock covers numbers of 64 bits only. -/
theorem LogRow.bounds_of_isReadable {row : LogRow} (readable : row.isReadable = true) :
    -2 ^ 63 ≤ row.ts ∧ row.ts < 2 ^ 63 := by
  have covered : Timestamp.firstSecond ≤ row.ts.fdiv 1000 ∧
      row.ts.fdiv 1000 ≤ Timestamp.lastSecond := by
    by_contra outside
    rw [LogRow.isReadable, Timestamp.ofMillis?, if_neg outside] at readable
    cases readable
  have first : Timestamp.firstSecond = -8334601228800 := by decide +kernel
  have last : Timestamp.lastSecond = 8210266876799 := by decide +kernel
  rw [first, last, Int.fdiv_eq_ediv_of_nonneg _ (by omega)] at covered
  omega

theorem isReadable_of_messagesOf {rows : List LogRow} {messages : List StoredMessage}
    (read : messagesOf rows = .ok messages) {row : LogRow} (member : row ∈ rows) :
    row.isReadable = true := by
  rw [messagesOf_eq_ok_iff] at read
  induction read with
  | nil => cases member
  | @cons first message _ _ head tail ih =>
      rcases List.mem_cons.mp member with rfl | later
      · by_contra unreadable
        rw [LogRow.isReadable, Bool.not_eq_true, Option.isSome_eq_false_iff,
          Option.isNone_iff_eq_none] at unreadable
        rw [LogRow.toMessage, unreadable] at head
        cases head
      · exact ih later

end Store

namespace Delivery

open LiveChat.Chat LiveChat.Config LiveChat.Store LiveChat.Time

/-- What happens to a store that tailers take turns on. -/
inductive SuccessionEvent where
  /-- A tailer is made, and begins to look for its position. -/
  | launch (settings : TailerSettings)
  /-- The tailer looks for its position, or makes a scan once it has one. -/
  | tick
  | halt
  /-- Another writer adds a row. -/
  | insert (message : StoredMessage)
  /-- The process ends, and one begins that has other emotes and other viewers. -/
  | restart (emotes : EmoteCache) (cooldown : Duration) (hub : Hub)
  /-- The store stops answering this process, or answers it again. -/
  | outage (down : Bool)

def SuccessionEvent.inserted? : SuccessionEvent → Option StoredMessage
  | .insert message => some message
  | _ => none

structure Succession where
  relay : Relay
  tailer : Tailer
  offsets : OffsetDisk
  /-- The rows that other writers added, the oldest first. -/
  foreign : List LogRow
  /-- The rows that were in the log when a tailer last began at its end. -/
  history : List LogRow
  /-- The hub with which the process began. -/
  opening : Hub
  /-- The hubs of the processes before, each as it began and as it ended. -/
  past : List (Hub × Hub)

namespace Succession

def log (succession : Succession) : MessageLog := succession.relay.database.tables.log

/-- No tailer has begun yet, and all rows are history. -/
def start (relay : Relay) (settings : TailerSettings) (offsets : OffsetDisk) : Succession where
  relay := relay
  tailer := .new settings
  offsets := offsets
  foreign := []
  history := relay.database.tables.log.rows
  opening := relay.hub
  past := []

/-- The position that the file holds. -/
def kept? (succession : Succession) : Option Position :=
  succession.offsets.load.filter fun position => !position.isUnset

/-- The tailer is about to begin at the end of the log. -/
def beginsAtEnd (succession : Succession) : Bool :=
  succession.tailer.phase = .seeking && (succession.tailer.resumed? succession.offsets).isNone &&
    succession.relay.database.tailHead.isOk

def step (succession : Succession) : SuccessionEvent → Succession
  | .launch settings => { succession with tailer := (Tailer.new settings).start }
  | .tick =>
      let outcome := succession.tailer.tick (.ofDatabase succession.relay.database)
        succession.relay succession.offsets
      { succession with
        relay := outcome.relay
        tailer := outcome.tailer
        offsets := outcome.offsets
        history := if succession.beginsAtEnd then succession.log.rows else succession.history }
  | .halt => { succession with tailer := succession.tailer.stop }
  | .insert message =>
      match succession.log.insertMessage message with
      | .ok log =>
          { succession with
            relay :=
              { succession.relay with database := succession.relay.database.withLog log }
            foreign := succession.foreign ++ succession.log.arrivals log }
      | .error _ => succession
  | .restart emotes cooldown hub =>
      let enricher := Enricher.new succession.relay.enricher.options cooldown
      { succession with
        relay := .new succession.relay.database { enricher with emotes := emotes } hub .empty
        tailer := succession.tailer.stop
        opening := hub
        past := succession.past ++ [(succession.opening, succession.relay.hub)] }
  | .outage down =>
      { succession with
        relay :=
          { succession.relay with
            database := { succession.relay.database with isClosed := down } } }

def run (succession : Succession) (events : List SuccessionEvent) : Succession :=
  events.foldl step succession

def scan (succession : Succession) : Result TailBatch :=
  succession.relay.database.tailNext succession.tailer.position
    (max succession.tailer.settings.batch 1 : Nat)

/-- The row that another writer would add has an id of its own and a number of 64 bits, and comes in
behind all rows that are there. -/
def welcomes (succession : Succession) (message : StoredMessage) : Bool :=
  let row := succession.log.rowFor message
  message.id ≠ "" && !succession.log.hasId message.id &&
    !succession.relay.seen.contains message.id && 0 ≤ row.ts && row.rowId < 2 ^ 63 &&
    succession.log.rows.all fun earlier => earlier.position.before row.position

/-- Tailers keep their positions in the file, and rows of other writers are welcome. -/
def admits (succession : Succession) : SuccessionEvent → Bool
  | .launch settings => (Tailer.new settings).keepsOffsets
  | .insert message => succession.welcomes message
  | _ => true

/-- Every event is admitted at the point where it happens. -/
def admitsAll : Succession → List SuccessionEvent → Bool
  | _, [] => true
  | succession, event :: rest => succession.admits event && (succession.step event).admitsAll rest

theorem admitsAll_append {succession : Succession} {before after : List SuccessionEvent}
    (admitted : succession.admitsAll (before ++ after) = true) :
    succession.admitsAll before = true ∧ (succession.run before).admitsAll after = true := by
  induction before generalizing succession with
  | nil => exact ⟨rfl, admitted⟩
  | cons event rest ih =>
      rw [List.cons_append, admitsAll, Bool.and_eq_true] at admitted
      obtain ⟨front, back⟩ := ih admitted.2
      refine ⟨?_, back⟩
      rw [admitsAll, admitted.1, front]
      rfl

/-- A row that is welcome has an id that nobody has noted, and is added at the end of the log. -/
theorem step_insert {succession : Succession} {message : StoredMessage}
    (welcome : succession.welcomes message = true) :
    message.id ≠ "" ∧ succession.relay.seen.contains message.id = false ∧
      ∃ log : MessageLog, log.rows = succession.log.rows ++ [succession.log.rowFor message] ∧
        succession.step (.insert message) =
          { succession with
            relay := { succession.relay with database := succession.relay.database.withLog log }
            foreign := succession.foreign ++ [succession.log.rowFor message] } := by
  simp only [welcomes, Bool.and_eq_true, Bool.not_eq_true', decide_eq_true_eq] at welcome
  obtain ⟨⟨⟨⟨⟨nonempty, unstored⟩, unnoted⟩, -⟩, -⟩, -⟩ := welcome
  refine ⟨nonempty, unnoted, ?_⟩
  rcases succession.log.insertMessage_cases message with ⟨taken, -⟩ | ⟨-, log, added, rows⟩
  · rw [unstored] at taken
    cases taken
  · refine ⟨log, rows, ?_⟩
    simp only [step, added, MessageLog.arrivals_of_append rows]

/-- A row that is welcome is behind the origin and behind all rows that are there. -/
theorem before_rowFor {succession : Succession} {message : StoredMessage}
    (welcome : succession.welcomes message = true) :
    Position.origin.before (succession.log.rowFor message).position = true ∧
      ∀ earlier ∈ succession.log.rows,
        earlier.position.before (succession.log.rowFor message).position = true := by
  simp only [welcomes, Bool.and_eq_true, decide_eq_true_eq, List.all_eq_true] at welcome
  obtain ⟨⟨⟨-, later⟩, -⟩, behind⟩ := welcome
  have positive : 0 < (succession.log.rowFor message).rowId := Nat.succ_pos _
  refine ⟨(Position.before_iff _ _).mpr ?_, behind⟩
  simp only [Position.origin, LogRow.position]
  omega

/-- A tailer that finds a position in the file goes on from there. -/
theorem step_tick_of_resumed {succession : Succession}
    (phase : succession.tailer.phase = .seeking) {position : Position}
    (resumed : succession.tailer.resumed? succession.offsets = some position) :
    succession.step .tick =
      { succession with
        tailer := { succession.tailer with position := position, phase := .polling } } := by
  simp only [step, Tailer.tick, Tailer.seek, beginsAtEnd, phase, resumed]
  rfl

/-- A scan that finds rows sends them, and the tailer moves on past them. -/
theorem step_tick_of_scan {succession : Succession} (phase : succession.tailer.phase = .polling)
    {batch : TailBatch} (found : succession.scan = .ok batch) (nonempty : batch.messages ≠ []) :
    succession.step .tick =
      { succession with
        relay := (succession.relay.publishRows batch.messages).2
        tailer := { succession.tailer with position := batch.last }
        offsets := ({ succession.tailer with position := batch.last }).keep
          succession.offsets } := by
  rw [scan] at found
  simp only [step, Tailer.tick, Tailer.poll, TailSource.ofDatabase, beginsAtEnd, phase, found,
    nonempty, if_false]
  rfl

/-- What a round of a tailer does: nothing, if there is no tailer at work, the store fails or no row
is found; else the tailer finds a position in the file, begins at the end of the log, or sends rows
and moves on past them. -/
theorem step_tick (succession : Succession) :
    succession.step .tick = succession ∨
    (succession.tailer.phase = .seeking ∧ ∃ position,
      succession.tailer.resumed? succession.offsets = some position ∧
        succession.step .tick =
          { succession with
            tailer := { succession.tailer with position := position, phase := .polling } }) ∨
    (succession.tailer.phase = .seeking ∧
      succession.tailer.resumed? succession.offsets = none ∧ ∃ position,
        succession.relay.database.tailHead = .ok position ∧
          succession.step .tick =
            { succession with
              tailer := { succession.tailer with position := position, phase := .polling }
              history := succession.log.rows }) ∨
    (succession.tailer.phase = .polling ∧ ∃ batch,
      succession.scan = .ok batch ∧ batch.messages ≠ [] ∧
        succession.step .tick =
          { succession with
            relay := (succession.relay.publishRows batch.messages).2
            tailer := { succession.tailer with position := batch.last }
            offsets := ({ succession.tailer with position := batch.last }).keep
              succession.offsets }) := by
  cases phase : succession.tailer.phase with
  | idle =>
      refine .inl ?_
      simp only [step, Tailer.tick, beginsAtEnd, phase]
      rfl
  | seeking =>
      cases resumed : succession.tailer.resumed? succession.offsets with
      | some position =>
          exact .inr (.inl ⟨rfl, position, rfl, step_tick_of_resumed phase resumed⟩)
      | none =>
          cases sought : succession.relay.database.tailHead with
          | error failure =>
              refine .inl ?_
              simp only [step, Tailer.tick, Tailer.seek, TailSource.ofDatabase, beginsAtEnd, phase,
                resumed, sought]
              rfl
          | ok position =>
              refine .inr (.inr (.inl ⟨rfl, rfl, position, rfl, ?_⟩))
              simp only [step, Tailer.tick, Tailer.seek, TailSource.ofDatabase, beginsAtEnd, phase,
                resumed, sought]
              rfl
  | polling =>
      cases found : succession.scan with
      | error failure =>
          refine .inl ?_
          rw [scan] at found
          simp only [step, Tailer.tick, Tailer.poll, TailSource.ofDatabase, beginsAtEnd, phase,
            found]
          rfl
      | ok batch =>
          rw [scan] at found
          by_cases nothing : batch.messages = []
          · refine .inl ?_
            simp only [step, Tailer.tick, Tailer.poll, TailSource.ofDatabase, beginsAtEnd, phase,
              found, nothing, if_true]
            rfl
          · exact .inr (.inr (.inr ⟨rfl, batch, rfl, nothing, step_tick_of_scan phase found nothing⟩))

/-- The file and the numbers of the rows are such that a position that a tailer reaches is kept, and
every tailer at work keeps it. -/
structure Sound (succession : Succession) : Prop where
  accepts : succession.offsets.Accepts
  numbered : ∀ row ∈ succession.log.rows, 0 < row.rowId ∧ row.rowId < 2 ^ 63
  keeping : succession.tailer.phase ≠ .idle → succession.tailer.keepsOffsets = true

namespace Sound

variable {succession : Succession} {event : SuccessionEvent}

theorem start {relay : Relay} {settings : TailerSettings} {offsets : OffsetDisk}
    (accepts : offsets.Accepts)
    (numbered : ∀ row ∈ relay.database.tables.log.rows, 0 < row.rowId ∧ row.rowId < 2 ^ 63) :
    (Succession.start relay settings offsets).Sound where
  accepts := accepts
  numbered := numbered
  keeping working := absurd rfl working

theorem resumed?_eq (sound : succession.Sound) (phase : succession.tailer.phase = .seeking) :
    succession.tailer.resumed? succession.offsets = succession.kept? := by
  have working : succession.tailer.phase ≠ .idle := by
    rw [phase]
    exact TailerPhase.noConfusion
  rw [Tailer.resumed?, if_pos (sound.keeping working)]
  rfl

/-- A scan that finds rows ends at one of them, whose position can be kept. -/
theorem last_of_scan (sound : succession.Sound) {batch : TailBatch}
    (found : succession.scan = .ok batch) (nonempty : batch.messages ≠ []) :
    ∃ row ∈ succession.log.rows, batch.last = row.position ∧ batch.last.IsStorable ∧
      batch.last.isUnset = false := by
  obtain ⟨-, read, last⟩ := Database.tailNext_eq_ok found
  have scanned := mt (eq_nil_iff_of_messagesOf read).mpr nonempty
  obtain ⟨row, member, reached⟩ := MessageLog.exists_reached _ scanned
  have present := (MessageLog.mem_of_mem_rowsAfter _ _ _ member).1
  have ts := LogRow.bounds_of_isReadable (isReadable_of_messagesOf read member)
  obtain ⟨positive, bounded⟩ := sound.numbered row present
  refine ⟨row, present, last.trans reached, ?_, ?_⟩
  · rw [last, reached]
    refine ⟨ts, ?_⟩
    simp only [LogRow.position]
    omega
  · rw [last, reached, Position.isUnset, Bool.and_eq_false_iff]
    refine .inr (beq_eq_false_iff_ne.mpr ?_)
    simp only [LogRow.position]
    omega

/-- The file holds the position that a scan has reached. -/
theorem kept?_of_scan (sound : succession.Sound) (phase : succession.tailer.phase = .polling)
    {batch : TailBatch} (found : succession.scan = .ok batch) (nonempty : batch.messages ≠ []) :
    (succession.step .tick).kept? = some batch.last := by
  obtain ⟨-, -, -, storable, set⟩ := sound.last_of_scan found nonempty
  have working : succession.tailer.phase ≠ .idle := by
    rw [phase]
    exact TailerPhase.noConfusion
  have keeping : ({ succession.tailer with position := batch.last }).keepsOffsets = true :=
    sound.keeping working
  rw [step_tick_of_scan phase found nonempty]
  simp only [kept?, Tailer.keep, keeping, if_true, sound.accepts.load_store storable,
    Option.filter_some, set]
  rfl

theorem step (sound : succession.Sound) (admitted : succession.admits event = true) :
    (succession.step event).Sound := by
  cases event with
  | launch settings => exact ⟨sound.accepts, sound.numbered, fun _ => admitted⟩
  | tick =>
      rcases succession.step_tick with same | ⟨phase, position, resumed, same⟩ |
        ⟨phase, resumed, position, sought, same⟩ | ⟨phase, batch, found, nonempty, same⟩
      · rw [same]
        exact sound
      · rw [same]
        exact ⟨sound.accepts, sound.numbered, fun _ => sound.keeping (by rw [phase]; decide)⟩
      · rw [same]
        exact ⟨sound.accepts, sound.numbered, fun _ => sound.keeping (by rw [phase]; decide)⟩
      · have database := (succession.relay.publishRows_keeps batch.messages).1
        rw [same]
        refine ⟨?_, ?_, sound.keeping⟩
        · simp only [Tailer.keep]
          split
          · exact sound.accepts.store _
          · exact sound.accepts
        · simp only [log, database]
          exact sound.numbered
  | halt => exact ⟨sound.accepts, sound.numbered, fun working => absurd rfl working⟩
  | insert message =>
      obtain ⟨-, -, log, rows, same⟩ := step_insert admitted
      rw [same]
      refine ⟨sound.accepts, ?_, sound.keeping⟩
      intro row member
      change row ∈ log.rows at member
      rw [rows, List.mem_append, List.mem_singleton] at member
      rcases member with old | rfl
      · exact sound.numbered row old
      · simp only [admits, welcomes, Bool.and_eq_true, decide_eq_true_eq] at admitted
        exact ⟨Nat.succ_pos _, admitted.1.2⟩
  | restart emotes cooldown hub =>
      exact ⟨sound.accepts, sound.numbered, fun working => absurd rfl working⟩
  | outage down => exact ⟨sound.accepts, sound.numbered, sound.keeping⟩

/-- Once the file holds a position, it goes on to hold one, and nothing becomes history. -/
theorem history_step (sound : succession.Sound) (kept : succession.kept?.isSome = true)
    (event : SuccessionEvent) :
    (succession.step event).kept?.isSome = true ∧
      (succession.step event).history = succession.history := by
  cases event with
  | launch settings => exact ⟨kept, rfl⟩
  | tick =>
      rcases succession.step_tick with same | ⟨phase, position, resumed, same⟩ |
        ⟨phase, resumed, position, sought, same⟩ | ⟨phase, batch, found, nonempty, same⟩
      · rw [same]
        exact ⟨kept, rfl⟩
      · rw [same]
        exact ⟨kept, rfl⟩
      · rw [sound.resumed?_eq phase] at resumed
        rw [resumed] at kept
        cases kept
      · refine ⟨?_, by rw [same]⟩
        rw [sound.kept?_of_scan phase found nonempty]
        rfl
  | halt => exact ⟨kept, rfl⟩
  | insert message =>
      simp only [Succession.step]
      split
      · exact ⟨kept, rfl⟩
      · exact ⟨kept, rfl⟩
  | restart emotes cooldown hub => exact ⟨kept, rfl⟩
  | outage down => exact ⟨kept, rfl⟩

theorem run (sound : succession.Sound) (events : List SuccessionEvent)
    (admitted : succession.admitsAll events = true) : (succession.run events).Sound := by
  induction events generalizing succession with
  | nil => exact sound
  | cons event rest ih =>
      rw [admitsAll, Bool.and_eq_true] at admitted
      exact ih (sound.step admitted.1) admitted.2

/-- **History ends with the first rows.** From the moment at which the file holds a position, no row
becomes history any more. -/
theorem history_run (sound : succession.Sound) (kept : succession.kept?.isSome = true)
    (events : List SuccessionEvent) (admitted : succession.admitsAll events = true) :
    (succession.run events).history = succession.history := by
  induction events generalizing succession with
  | nil => rfl
  | cons event rest ih =>
      rw [admitsAll, Bool.and_eq_true] at admitted
      obtain ⟨still, same⟩ := sound.history_step kept event
      exact (ih (sound.step admitted.1) still admitted.2).trans same

end Sound

end Succession

end Delivery

end LiveChat
