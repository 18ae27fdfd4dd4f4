import LiveChat.Proofs.Delivery.ExactlyOnce
import LiveChat.Proofs.Delivery.Redelivery

/-!
# Every message at least once

Tailers that take turns on one position file offer every row of another writer that does not become
history (`Succession.publishes_at_least_once`). A row that comes in between two tailers becomes
history if no row has been found before, and is never offered then
(`Succession.row_between_tailers_is_skipped`).
-/

namespace LiveChat.Delivery

open LiveChat.Chat LiveChat.Config LiveChat.Store

namespace Succession

theorem foreign_run {succession : Succession} (events : List SuccessionEvent)
    (admitted : succession.admitsAll events = true) :
    ∃ rows, (succession.run events).foreign = succession.foreign ++ rows ∧
      List.Forall₂ LogRow.Holds rows (events.filterMap SuccessionEvent.inserted?) := by
  induction events generalizing succession with
  | nil => exact ⟨[], (List.append_nil _).symm, .nil⟩
  | cons event rest ih =>
      rw [admitsAll, Bool.and_eq_true] at admitted
      obtain ⟨rows, later, held⟩ := ih admitted.2
      cases event with
      | insert message =>
          obtain ⟨-, -, log, -, same⟩ := step_insert admitted.1
          refine ⟨succession.log.rowFor message :: rows, ?_,
            .cons (succession.log.holds_rowFor message) held⟩
          refine later.trans ?_
          rw [same, List.append_assoc]
          rfl
      | tick =>
          refine ⟨rows, ?_, held⟩
          exact later
      | launch settings => exact ⟨rows, later, held⟩
      | halt => exact ⟨rows, later, held⟩
      | restart emotes cooldown hub => exact ⟨rows, later, held⟩
      | outage down => exact ⟨rows, later, held⟩

/-- **Every message at least once.** Tailers take turns on one store and one file in which positions
can be kept, and at first the file holds no position beyond the log. The rows of other writers have
ids of their own and come in behind all rows that are there. If a scan returns nothing, the hubs of
all processes together were given a payload for every foreign row that a message can be rebuilt from
and that is not history. A tailer that finds no position in the file makes history of the rows that
it finds in the log, but no row becomes history once the file holds a position, which it does after
the first scan that finds rows. -/
theorem publishes_at_least_once (relay : Relay) (settings : TailerSettings) (offsets : OffsetDisk)
    (events : List SuccessionEvent)
    (accepts : offsets.Accepts)
    (numbered : ∀ row ∈ relay.database.tables.log.rows, 0 < row.rowId ∧ row.rowId < 2 ^ 63)
    (within : ∀ position, (start relay settings offsets).kept? = some position →
      ∃ row ∈ relay.database.tables.log.rows, ¬ row.position.before position = true)
    (admitted : (start relay settings offsets).admitsAll events = true) :
    let begun := start relay settings offsets
    let succession := begun.run events
    List.Forall₂ LogRow.Holds succession.foreign (events.filterMap SuccessionEvent.inserted?) ∧
    (∀ batch, succession.tailer.phase = .polling → succession.scan = .ok batch →
      batch.messages = [] → ∃ offers : List (List (LogRow × String)),
        List.Forall₂ Served (succession.past ++ [(succession.opening, succession.relay.hub)])
          offers ∧
        (∀ offer ∈ offers.flatten, offer.1 ∈ succession.log.rows ∧
          offer.1.Replays relay.enricher.options offer.2) ∧
        ∀ row ∈ succession.foreign, row ∉ succession.history →
          row.isReplayable relay.enricher = true → row ∈ offers.flatten.map Prod.fst) ∧
    (∀ before after, events = before ++ after → (begun.run before).kept?.isSome = true →
      succession.history = (begun.run before).history) ∧
    ∀ before after batch, events = before ++ .tick :: after →
      (begun.run before).tailer.phase = .polling → (begun.run before).scan = .ok batch →
      batch.messages ≠ [] → ((begun.run before).step .tick).kept? = some batch.last := by
  intro begun succession
  have sound : begun.Sound := .start accepts numbered
  obtain ⟨earlier, current, invariant⟩ := (Invariant.start within).run sound events admitted
  refine ⟨?_, ?_, ?_, ?_⟩
  · obtain ⟨rows, foreign, held⟩ := foreign_run events admitted
    rw [show succession.foreign = rows from foreign]
    exact held
  · intro batch phase found nothing
    have same : (earlier ++ [current]).flatten = earlier.flatten ++ current := by
      rw [List.flatten_append, List.flatten_singleton]
    refine ⟨earlier ++ [current], List.rel_append invariant.past (.cons invariant.present .nil), ?_⟩
    rw [same]
    exact ⟨invariant.replays, invariant.offered_of_nothing phase found nothing⟩
  · rintro before after rfl kept
    obtain ⟨front, back⟩ := admitsAll_append admitted
    have later := (sound.run before front).history_run kept after back
    rw [← later, run, run, ← List.foldl_append]
    rfl
  · rintro before after batch rfl phase found nonempty
    exact (sound.run before (admitsAll_append admitted).1).kept?_of_scan phase found nonempty

/-- Settings of tailers that keep their positions and take one row at a time. -/
def keeping : TailerSettings := ⟨true, 250, 1, 0, true, some "chat.offset"⟩

/-- A tailer finds a row and stops, another row comes in, and a process with another tailer begins. -/
def handoverEvents : List SuccessionEvent :=
  [.launch keeping, .tick, .insert (spoken "a" 1), .tick, .halt,
    .insert (spoken "b" 2), .restart .empty 0 Hub.empty.subscribe.2, .launch keeping]

theorem publishes_at_least_once_handoverEvents :
    let succession := (start Relay.quiet keeping .empty).run (handoverEvents ++ [.tick, .tick])
    succession.scan = .ok ⟨[], ⟨2000, 2⟩⟩ ∧ succession.past.length = 1 ∧
      ∃ offers : List (List (LogRow × String)),
        List.Forall₂ Served (succession.past ++ [(succession.opening, succession.relay.hub)])
          offers ∧
        ∀ id ∈ [some "a", some "b"], id ∈ (offers.flatten.map Prod.fst).map LogRow.id := by
  intro succession
  have scan : succession.scan = .ok ⟨[], ⟨2000, 2⟩⟩ := by decide +kernel
  have phase : succession.tailer.phase = .polling := by decide +kernel
  have past : succession.past.length = 1 := by decide +kernel
  have history : succession.history = [] := by decide +kernel
  have foreign : succession.foreign = [.ofEntry (.ofMessage (spoken "a" 1)) 1 1000,
      .ofEntry (.ofMessage (spoken "b" 2)) 2 2000] := by decide +kernel
  obtain ⟨-, caught, -⟩ := publishes_at_least_once Relay.quiet keeping .empty
    (handoverEvents ++ [.tick, .tick]) (fun _ => rfl) (by decide) (fun _ kept => by cases kept)
    (by decide +kernel)
  obtain ⟨offers, served, -, offered⟩ := caught _ phase scan rfl
  refine ⟨scan, past, offers, served, fun id listed => ?_⟩
  have replayable : ∀ row ∈ succession.foreign,
      row.isReplayable Relay.quiet.enricher = true := by
    rw [foreign]
    decide +kernel
  have present : id ∈ succession.foreign.map LogRow.id := by
    rw [foreign]
    exact listed
  obtain ⟨row, member, rfl⟩ := List.mem_map.mp present
  refine List.mem_map_of_mem (offered row member ?_ (replayable row member))
  rw [show ((start Relay.quiet keeping .empty).run _).history = [] from history]
  exact List.not_mem_nil

/-- A tailer finds no row and stops, a row comes in, and the next tailer begins. -/
def missedEvents : List SuccessionEvent :=
  [.launch keeping, .tick, .tick, .halt, .insert (spoken "a" 1), .launch keeping, .tick, .tick]

/-- **A row between two tailers is skipped.** The row came in after the first tailer had begun and
can be sent, and the tailer at work finds nothing more, but the viewer has nothing. -/
theorem row_between_tailers_is_skipped :
    let succession := (start Relay.quiet keeping .empty).run missedEvents
    (start Relay.quiet keeping .empty).admitsAll missedEvents = true ∧
      succession.tailer.phase = .polling ∧ succession.scan = .ok ⟨[], ⟨1000, 1⟩⟩ ∧
      succession.foreign.map LogRow.id = [some "a"] ∧
      (succession.foreign.all fun row => row.isReplayable Relay.quiet.enricher) = true ∧
      succession.past = [] ∧ (succession.relay.hub.find? 1).map Subscriber.queue = some [] := by
  intro succession
  refine ⟨?_, ?_, ?_, ?_, ?_, ?_, ?_⟩
  all_goals decide +kernel

end Succession

end LiveChat.Delivery
