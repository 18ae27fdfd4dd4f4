import LiveChat.Proofs.Delivery.Succession

/-!
# What tailers offer one after the other

Every foreign row that does not become history is always behind the position at which the tailer at
work or the next one goes on, or it has been offered (`Succession.Trails`). That holds when a row
comes in (`Succession.Trails.insert`), after a scan (`Succession.Invariant.trails_of_scan`) and for a
tailer that begins at the end of the log (`Succession.Trails.atEnd`), and so at all times
(`Succession.Invariant.run`). A scan that returns nothing leaves no row behind the position, so that
all have been offered then (`Succession.Invariant.offered_of_nothing`).
-/

namespace LiveChat.Delivery

open LiveChat.Chat LiveChat.Config LiveChat.Store LiveChat.Time

namespace Relay

/-- A row that is not noted is offered if a message can be rebuilt from it, and the rows with other
ids that are not noted remain so. -/
theorem exists_offer_of_unsent (relay : Relay) {row : LogRow} {message : StoredMessage}
    (read : row.toMessage = .ok message) :
    ∃ payload : Option String,
      (relay.publishRow message).2.hub = relay.hub.publishAll payload.toList ∧
      (∀ text ∈ payload, row.Replays relay.enricher.options text) ∧
      (row.isUnsent relay.seen = true → row.isReplayable relay.enricher = true →
        payload.isSome = true) ∧
      (relay.publishRow message).2.enricher.options = relay.enricher.options ∧
      ∀ other : LogRow, (row.id ≠ none → row.id ≠ other.id) → other.isUnsent relay.seen = true →
        other.isUnsent (relay.publishRow message).2.seen = true := by
  rcases relay.publishRow_cases message with
    ⟨passed, same⟩ | ⟨given, unknown, enricher, options, same⟩
  · rw [same]
    refine ⟨none, rfl, fun text member => (Option.not_mem_none _ member).elim, ?_, rfl,
      fun other _ unsent => unsent⟩
    intro unsent
    obtain ⟨id, found, nonempty, fresh⟩ := LogRow.isUnsent_iff.mp unsent
    rw [LogRow.id_of_toMessage read, found, Option.getD_some, fresh] at passed
    exact (passed.elim nonempty Bool.false_ne_true).elim
  · have key := LogRow.id_eq_some read given
    have replays (text : String) (found : relay.enricher.replayed? message = some text) :
        row.Replays relay.enricher.options text := ⟨message, relay.enricher, read, rfl, found⟩
    have replayable := LogRow.isReplayable_of_toMessage read relay.enricher
    rw [same]
    generalize relay.enricher.replayed? message = payload at *
    refine ⟨payload, rfl, replays, ?_, options, ?_⟩
    · intro _ given
      rw [← replayable]
      exact given
    · intro other apart unsent
      obtain ⟨id, found, nonempty, fresh⟩ := LogRow.isUnsent_iff.mp unsent
      refine LogRow.isUnsent_iff.mpr ⟨id, found, nonempty, ?_⟩
      rw [Bool.eq_false_iff] at fresh ⊢
      refine fun noted => fresh (SeenIds.contains_of_contains_insert noted ?_)
      rintro rfl
      refine apart ?_ (key.trans found.symm)
      rw [key]
      exact Option.some_ne_none _

/-- Of a batch, every row that is not noted is offered if a message can be rebuilt from it, whether
the set of noted ids forgets meanwhile or not. -/
theorem exists_offers_of_unsent (relay : Relay) {rows : List LogRow}
    {messages : List StoredMessage}
    (read : List.Forall₂ (fun row message => row.toMessage = .ok message) rows messages)
    (keyed : rows.Pairwise fun earlier later => earlier.id ≠ none → earlier.id ≠ later.id) :
    ∃ offers : List (LogRow × String),
      (relay.publishRows messages).2.hub = relay.hub.publishAll (offers.map Prod.snd) ∧
      (∀ offer ∈ offers, offer.1 ∈ rows ∧ offer.1.Replays relay.enricher.options offer.2) ∧
      ∀ row ∈ rows, row.isUnsent relay.seen = true → row.isReplayable relay.enricher = true →
        row ∈ offers.map Prod.fst := by
  -- On the batch, for every relay: `fresh` carries what is not noted past the first row.
  induction read generalizing relay with
  | nil => exact ⟨[], rfl, List.forall_mem_nil _, List.forall_mem_nil _⟩
  | @cons row message rows messages head tail ih =>
      obtain ⟨apart, keyed⟩ := List.pairwise_cons.mp keyed
      obtain ⟨payload, first, replay, given, options, fresh⟩ := relay.exists_offer_of_unsent head
      obtain ⟨later, hub, replays, offered⟩ := ih (relay.publishRow message).2 keyed
      refine ⟨payload.toList.map (Prod.mk row) ++ later, ?_, ?_, ?_⟩
      · rw [publishRows_cons, hub, first, List.map_append, Hub.publishAll_append, List.map_map]
        congr 2
        exact (List.map_id _).symm
      · intro offer member
        rcases List.mem_append.mp member with member | member
        · obtain ⟨text, found, rfl⟩ := List.mem_map.mp member
          exact ⟨List.mem_cons_self, replay text (Option.mem_toList.mp found)⟩
        · obtain ⟨listed, replayed⟩ := replays offer member
          rw [options] at replayed
          exact ⟨List.mem_cons_of_mem _ listed, replayed⟩
      · intro other member unsent replayable
        rw [List.map_append, List.mem_append]
        rcases List.mem_cons.mp member with rfl | member
        · obtain ⟨text, found⟩ := Option.isSome_iff_exists.mp (given unsent replayable)
          rw [found]
          exact .inl (List.mem_singleton_self _)
        · refine .inr (offered other member (fresh other (apart other member) unsent) ?_)
          rw [LogRow.isReplayable_congr options]
          exact replayable

end Relay

/-- A process began with one hub and ended with another, and offered the payloads in between. -/
def Served (hubs : Hub × Hub) (offers : List (LogRow × String)) : Prop :=
  hubs.2 = hubs.1.publishAll (offers.map Prod.snd)

namespace Succession

/-- A tailer that goes on from a cursor does not miss a row: the cursor is not beyond the log, and
every foreign row that is not history is behind the cursor or has been offered. -/
structure Trails (succession : Succession) (enricher : Enricher) (offers : List (LogRow × String))
    (cursor : Position) : Prop where
  within : cursor = .origin ∨
    ∃ row ∈ succession.log.rows, ¬ row.position.before cursor = true
  pending : ∀ row ∈ succession.foreign, row ∉ succession.history →
    row.isReplayable enricher = true →
      cursor.before row.position = true ∨ row ∈ offers.map Prod.fst

/-- Processes before and the one at work have made certain offers. -/
structure Invariant (enricher : Enricher) (succession : Succession)
    (earlier : List (List (LogRow × String))) (current : List (LogRow × String)) : Prop where
  options : succession.relay.enricher.options = enricher.options
  stored : ∀ row ∈ succession.foreign, row ∈ succession.log.rows
  identified : ∀ row ∈ succession.foreign, ∃ id, row.id = some id ∧ id ≠ ""
  past : List.Forall₂ Served succession.past earlier
  present : Served (succession.opening, succession.relay.hub) current
  replays : ∀ offer ∈ earlier.flatten ++ current,
    offer.1 ∈ succession.log.rows ∧ offer.1.Replays enricher.options offer.2
  noted : ∀ row ∈ succession.foreign, row.isNoted succession.relay.seen = true →
    row.isReplayable enricher = true → row ∈ (earlier.flatten ++ current).map Prod.fst
  polled : succession.tailer.phase = .polling →
    succession.Trails enricher (earlier.flatten ++ current) succession.tailer.position
  resumed : ∀ position, succession.kept? = some position →
    succession.Trails enricher (earlier.flatten ++ current) position

namespace Trails

variable {succession : Succession} {enricher : Enricher} {offers : List (LogRow × String)}
  {cursor : Position}

/-- Only the log, the foreign rows and history matter. -/
theorem congr (trails : succession.Trails enricher offers cursor) {other : Succession}
    (log : other.log = succession.log) (foreign : other.foreign = succession.foreign)
    (history : other.history = succession.history) : other.Trails enricher offers cursor where
  within := by
    rw [log]
    exact trails.within
  pending := by
    rw [foreign, history]
    exact trails.pending

/-- At the end of the log everything is history. -/
theorem atEnd {position : Position} (sought : succession.relay.database.tailHead = .ok position)
    (stored : ∀ row ∈ succession.foreign, row ∈ succession.log.rows)
    (history : succession.history = succession.log.rows) :
    succession.Trails enricher offers position where
  within := by
    rw [Database.tailHead_eq_ok sought]
    refine succession.log.tailHead_cases.imp_right ?_
    rintro ⟨row, member, same⟩
    refine ⟨row, member, ?_⟩
    change ¬ row.position.before succession.log.tailHead = true
    rw [same]
    exact Position.before_irrefl _
  pending row foreign recent := by
    rw [history] at recent
    exact absurd (stored row foreign) recent

/-- A row that is welcome does not come in before a cursor that misses none. -/
theorem insert (trails : succession.Trails enricher offers cursor) {message : StoredMessage}
    (welcome : succession.welcomes message = true) :
    (succession.step (.insert message)).Trails enricher offers cursor := by
  obtain ⟨-, -, log, rows, same⟩ := step_insert welcome
  obtain ⟨beyondOrigin, beyondRows⟩ := before_rowFor welcome
  rw [same]
  constructor
  · refine trails.within.imp_right ?_
    rintro ⟨row, member, reached⟩
    refine ⟨row, ?_, reached⟩
    change row ∈ log.rows
    rw [rows]
    exact List.mem_append_left _ member
  · intro row member recent replayable
    rcases List.mem_append.mp member with old | new
    · exact trails.pending row old recent replayable
    · rw [List.mem_singleton.mp new]
      -- The cursor is not beyond some row of the log, and the new row is behind all of them.
      rcases trails.within with rfl | ⟨earlier, present, reached⟩
      · exact .inl beyondOrigin
      · exact .inl (Position.before_of_not_before reached (beyondRows earlier present))

end Trails

namespace Invariant

variable {enricher : Enricher} {succession : Succession}
  {earlier : List (List (LogRow × String))} {current : List (LogRow × String)}

theorem start {relay : Relay} {settings : TailerSettings} {offsets : OffsetDisk}
    (within : ∀ position, (Succession.start relay settings offsets).kept? = some position →
      ∃ row ∈ relay.database.tables.log.rows, ¬ row.position.before position = true) :
    (Succession.start relay settings offsets).Invariant relay.enricher [] [] where
  options := rfl
  stored := List.forall_mem_nil _
  identified := List.forall_mem_nil _
  past := .nil
  present := rfl
  replays := List.forall_mem_nil _
  noted := List.forall_mem_nil _
  polled working := nomatch working
  resumed position kept := ⟨.inr (within position kept), List.forall_mem_nil _⟩

theorem insert (invariant : succession.Invariant enricher earlier current)
    {message : StoredMessage} (welcome : succession.welcomes message = true) :
    (succession.step (.insert message)).Invariant enricher earlier current := by
  have trails {offers : List (LogRow × String)} {cursor : Position}
      (before : succession.Trails enricher offers cursor) := before.insert welcome
  obtain ⟨nonempty, unnoted, log, rows, same⟩ := step_insert welcome
  have grown : ∀ row ∈ succession.log.rows, row ∈ log.rows := by
    intro row member
    rw [rows]
    exact List.mem_append_left _ member
  rw [same] at trails ⊢
  refine
    { options := invariant.options
      stored := ?_
      identified := ?_
      past := invariant.past
      present := invariant.present
      replays := fun offer member => (invariant.replays offer member).imp_left (grown _)
      noted := ?_
      polled := fun working => trails (invariant.polled working)
      resumed := fun position kept => trails (invariant.resumed position kept) }
  · intro row member
    change row ∈ log.rows
    rw [rows]
    exact (List.mem_append.mp member).elim
      (fun old => List.mem_append_left _ (invariant.stored row old)) (List.mem_append_right _)
  · intro row member
    rcases List.mem_append.mp member with old | new
    · exact invariant.identified row old
    · rw [List.mem_singleton.mp new]
      exact ⟨message.id, rfl, nonempty⟩
  · intro row member noted replayable
    rcases List.mem_append.mp member with old | new
    · exact invariant.noted row old noted replayable
    · rw [List.mem_singleton.mp new] at noted
      obtain ⟨id, found, known⟩ := LogRow.isNoted_iff.mp noted
      cases found
      exact absurd known (Bool.eq_false_iff.mp unnoted)

/-- After a scan, every foreign row that the scan returned has been offered. -/
theorem offered_of_scan (invariant : succession.Invariant enricher earlier current)
    {rows : List LogRow} {more : List (LogRow × String)}
    (offered : ∀ row ∈ rows, row.isUnsent succession.relay.seen = true →
      row.isReplayable succession.relay.enricher = true → row ∈ more.map Prod.fst) :
    ∀ row ∈ succession.foreign, row ∈ rows → row.isReplayable enricher = true →
      row ∈ (earlier.flatten ++ (current ++ more)).map Prod.fst := by
  intro row foreign scanned replayable
  rw [← List.append_assoc, List.map_append, List.mem_append]
  obtain ⟨id, found, nonempty⟩ := invariant.identified row foreign
  by_cases known : succession.relay.seen.contains id = true
  · exact .inl (invariant.noted row foreign (LogRow.isNoted_iff.mpr ⟨id, found, known⟩) replayable)
  · refine .inr (offered row scanned ?_ ?_)
    · exact LogRow.isUnsent_iff.mpr ⟨id, found, nonempty, Bool.eq_false_iff.mpr known⟩
    · rw [LogRow.isReplayable_congr invariant.options]
      exact replayable

/-- A scan that finds rows leaves behind nothing but rows that have been offered. -/
theorem trails_of_scan (invariant : succession.Invariant enricher earlier current)
    (sound : succession.Sound) (phase : succession.tailer.phase = .polling) {batch : TailBatch}
    (found : succession.scan = .ok batch) (nonempty : batch.messages ≠ [])
    {offers : List (LogRow × String)}
    (old : ∀ row ∈ (earlier.flatten ++ current).map Prod.fst, row ∈ offers.map Prod.fst)
    (scanned : ∀ row ∈ succession.foreign,
      row ∈ succession.log.rowsAfter succession.tailer.position
        (max succession.tailer.settings.batch 1) →
      row.isReplayable enricher = true → row ∈ offers.map Prod.fst) :
    (succession.step .tick).Trails enricher offers batch.last := by
  obtain ⟨-, -, last⟩ := Database.tailNext_eq_ok found
  obtain ⟨final, member, reached, -, -⟩ := sound.last_of_scan found nonempty
  have database := (succession.relay.publishRows_keeps batch.messages).1
  rw [step_tick_of_scan phase found nonempty]
  constructor
  · refine .inr ⟨final, ?_, ?_⟩
    · simp only [log, database]
      exact member
    · rw [reached]
      exact Position.before_irrefl _
  · intro row foreign recent replayable
    rcases (invariant.polled phase).pending row foreign recent replayable with ahead | given
    · by_cases beyond : batch.last.before row.position = true
      · exact .inl beyond
      · refine .inr (scanned row foreign ?_ replayable)
        rw [last] at beyond
        exact (MessageLog.mem_rowsAfter_iff _ _ _).mpr ⟨invariant.stored row foreign, ahead, beyond⟩
    · exact .inr (old row given)

theorem scan (invariant : succession.Invariant enricher earlier current)
    (sound : succession.Sound) (phase : succession.tailer.phase = .polling) {batch : TailBatch}
    (found : succession.scan = .ok batch) (nonempty : batch.messages ≠ []) :
    ∃ more, (succession.step .tick).Invariant enricher earlier (current ++ more) := by
  obtain ⟨-, read, -⟩ := Database.tailNext_eq_ok found
  obtain ⟨more, hub, replays, offered⟩ := succession.relay.exists_offers_of_unsent
    ((messagesOf_eq_ok_iff _ _).mp read) (MessageLog.rowsAfter_keyed _ _ _)
  obtain ⟨database, options⟩ := succession.relay.publishRows_keeps batch.messages
  have old : ∀ row ∈ (earlier.flatten ++ current).map Prod.fst,
      row ∈ (earlier.flatten ++ (current ++ more)).map Prod.fst := by
    intro row member
    rw [← List.append_assoc, List.map_append]
    exact List.mem_append_left _ member
  have scanned := invariant.offered_of_scan offered
  have trails := invariant.trails_of_scan sound phase found nonempty old scanned
  have kept := sound.kept?_of_scan phase found nonempty
  refine ⟨more, ?_⟩
  rw [step_tick_of_scan phase found nonempty] at kept trails ⊢
  refine
    { options := options.trans invariant.options
      stored := ?_
      identified := invariant.identified
      past := invariant.past
      present := ?_
      replays := ?_
      noted := ?_
      polled := fun _ => trails
      resumed := ?_ }
  · simp only [log, database]
    exact invariant.stored
  · rw [Served, List.map_append, Hub.publishAll_append, ← invariant.present]
    exact hub
  · intro offer member
    simp only [log, database]
    rw [← List.append_assoc] at member
    rcases List.mem_append.mp member with known | new
    · exact invariant.replays offer known
    · obtain ⟨listed, replay⟩ := replays offer new
      rw [invariant.options] at replay
      exact ⟨(MessageLog.mem_of_mem_rowsAfter _ _ _ listed).1, replay⟩
  · intro row foreign noted replayable
    obtain ⟨id, found, known⟩ := LogRow.isNoted_iff.mp noted
    -- An id that the scan noted belongs to a row of the batch, which is this row.
    rcases Relay.contains_of_publishRows known with before | ⟨given, message, listed, rfl⟩
    · refine old row (invariant.noted row foreign ?_ replayable)
      exact LogRow.isNoted_iff.mpr ⟨id, found, before⟩
    · obtain ⟨other, member, readable⟩ := exists_row_of_mem read listed
      have present := (MessageLog.mem_of_mem_rowsAfter _ _ _ member).1
      have same := MessageLog.eq_of_id_eq _ present (invariant.stored row foreign)
        (LogRow.id_eq_some readable given) found
      rw [same] at member
      exact scanned row foreign member replayable
  · intro position holds
    rw [kept] at holds
    cases holds
    exact trails

theorem tick (invariant : succession.Invariant enricher earlier current)
    (sound : succession.Sound) :
    ∃ more, (succession.step .tick).Invariant enricher earlier (current ++ more) := by
  rcases succession.step_tick with same | ⟨phase, position, resumed, same⟩ |
    ⟨phase, resumed, position, sought, same⟩ | ⟨phase, batch, found, nonempty, same⟩
  · refine ⟨[], ?_⟩
    rw [same, List.append_nil]
    exact invariant
  · have trails := invariant.resumed position (sound.resumed?_eq phase ▸ resumed)
    refine ⟨[], ?_⟩
    rw [same, List.append_nil]
    exact
      { invariant with
        polled := fun _ => trails.congr rfl rfl rfl
        resumed := fun other kept => (invariant.resumed other kept).congr rfl rfl rfl }
  · rw [sound.resumed?_eq phase] at resumed
    refine ⟨[], ?_⟩
    rw [same, List.append_nil]
    exact
      { invariant with
        polled := fun _ => .atEnd sought invariant.stored rfl
        resumed := fun other kept => nomatch resumed.symm.trans kept }
  · exact invariant.scan sound phase found nonempty

theorem step (invariant : succession.Invariant enricher earlier current)
    (sound : succession.Sound) {event : SuccessionEvent}
    (admitted : succession.admits event = true) :
    ∃ earlier current, (succession.step event).Invariant enricher earlier current := by
  have resumed {other : Succession} (log : other.log = succession.log)
      (foreign : other.foreign = succession.foreign)
      (history : other.history = succession.history) (offsets : other.offsets = succession.offsets)
      (position : Position) (kept : other.kept? = some position) :
      other.Trails enricher (earlier.flatten ++ current) position := by
    rw [kept?, offsets] at kept
    exact (invariant.resumed position kept).congr log foreign history
  cases event with
  | launch settings =>
      refine ⟨earlier, current, ?_⟩
      exact { invariant with
        polled := fun working => by cases working
        resumed := resumed rfl rfl rfl rfl }
  | tick =>
      obtain ⟨more, ticked⟩ := invariant.tick sound
      exact ⟨earlier, current ++ more, ticked⟩
  | halt =>
      refine ⟨earlier, current, ?_⟩
      exact { invariant with
        polled := fun working => by cases working
        resumed := resumed rfl rfl rfl rfl }
  | insert message => exact ⟨earlier, current, invariant.insert admitted⟩
  | restart emotes cooldown hub =>
      -- The offers of this process become those of an earlier one, and it forgets all ids.
      have same : (earlier ++ [current]).flatten ++ [] = earlier.flatten ++ current := by
        rw [List.append_nil, List.flatten_append, List.flatten_singleton]
      refine ⟨earlier ++ [current], [], ?_⟩
      refine
        { options := invariant.options
          stored := invariant.stored
          identified := invariant.identified
          past := List.rel_append invariant.past (.cons invariant.present .nil)
          present := rfl
          replays := ?_
          noted := ?_
          polled := fun working => by cases working
          resumed := ?_ }
      · rw [same]
        exact invariant.replays
      · intro row foreign noted
        obtain ⟨id, -, known⟩ := LogRow.isNoted_iff.mp noted
        exact absurd known (Bool.eq_false_iff.mp SeenIds.not_contains_empty)
      · rw [same]
        exact resumed rfl rfl rfl rfl
  | outage down =>
      refine ⟨earlier, current, ?_⟩
      exact { invariant with
        polled := fun working => (invariant.polled working).congr rfl rfl rfl
        resumed := resumed rfl rfl rfl rfl }

theorem run (invariant : succession.Invariant enricher earlier current)
    (sound : succession.Sound) (events : List SuccessionEvent)
    (admitted : succession.admitsAll events = true) :
    ∃ earlier current, (succession.run events).Invariant enricher earlier current := by
  induction events generalizing succession earlier current with
  | nil => exact ⟨earlier, current, invariant⟩
  | cons event rest ih =>
      rw [admitsAll, Bool.and_eq_true] at admitted
      obtain ⟨_, _, stepped⟩ := invariant.step sound admitted.1
      exact ih stepped (sound.step admitted.1) admitted.2

end Invariant

/-- When a scan returns nothing, every foreign row that is not history has been offered. -/
theorem Invariant.offered_of_nothing {enricher : Enricher} {succession : Succession}
    {earlier : List (List (LogRow × String))} {current : List (LogRow × String)}
    (invariant : succession.Invariant enricher earlier current)
    (phase : succession.tailer.phase = .polling) {batch : TailBatch}
    (found : succession.scan = .ok batch) (nothing : batch.messages = []) :
    ∀ row ∈ succession.foreign, row ∉ succession.history → row.isReplayable enricher = true →
      row ∈ (earlier.flatten ++ current).map Prod.fst := by
  obtain ⟨-, read, -⟩ := Database.tailNext_eq_ok found
  have passed := (MessageLog.rowsAfter_eq_nil_iff _ _ _ (by omega)).mp
    ((eq_nil_iff_of_messagesOf read).mp nothing)
  intro row foreign recent replayable
  have stored := invariant.stored row foreign
  exact ((invariant.polled phase).pending row foreign recent replayable).resolve_left
    (passed row stored)

end Succession

end LiveChat.Delivery
