import LiveChat.Proofs.Delivery.Broadcast
import LiveChat.Proofs.Delivery.History
import LiveChat.Proofs.Store.OneOrder

/-!
# The history and the other scans

The history of a relay shows the last rows of its log (`Relay.history_eq`), in the order in which all
other scans of the store see them (`scans_agree`).
-/

namespace LiveChat.Delivery

open LiveChat.Chat LiveChat.Store

namespace Relay

/-- The history shows the last rows of the log. -/
theorem history_eq {relay : Relay} (serves : relay.database.Serves) {limit : Nat}
    (positive : 0 < limit) :
    relay.history limit =
      let rows := (relay.database.tables.log.ordered.rtake limit).map LogRow.shown
      .ok (rebuilt relay.enricher rows,
        { relay with enricher := rows.foldl remember relay.enricher }) := by
  have several : limit ≠ 0 := Nat.pos_iff_ne_zero.mp positive
  rw [history, if_neg several, RecentQuery.latest, serves.recent_newest, lastOf, if_neg several,
    List.map_reverse]
  change Except.ok _ = _
  rw [List.reverse_reverse, replay_eq]

end Relay

/-- **All scans agree.** Whatever messages have come into a store and whatever was purged, there is
one row of all its rows, in ascending order of their positions, and each scan is told by it. The
newest messages are the last rows backwards, with a bound in time those of the rows on one side of
it, and both sides together are all rows. A purge leaves the rows on one side of a bound as they
are, and counts the messages that would have been found on the other side. The end of the log is the
position of the last row, with nothing behind it. A forward scan shows the first rows behind its
cursor. The history is what can be rebuilt of the last rows. -/
theorem scans_agree (start : Database) (serves : start.Serves) (events : List LogEvent)
    (covered : ∀ event ∈ events, event.isCovered = true) :
    let database := start.run events
    let rows := database.tables.log.ordered
    (rows.Perm database.tables.log.rows ∧ Ascending rows ∧
      ∀ row ∈ rows, row.toMessage = .ok row.shown) ∧
    (∀ limit : Nat,
      database.recent ⟨limit, none, none⟩ = .ok ((lastOf limit rows).reverse.map LogRow.shown)) ∧
    (∀ (limit : Nat) (cutoff : Int),
      database.recent ⟨limit, some cutoff, none⟩ =
          .ok ((lastOf limit (rows.filter fun row => cutoff ≤ row.ts)).reverse.map LogRow.shown) ∧
        database.recent ⟨limit, none, some cutoff⟩ =
          .ok ((lastOf limit (rows.filter fun row => row.ts < cutoff)).reverse.map LogRow.shown)) ∧
    (∀ cutoff : Int,
      ((rows.filter fun row => row.ts < cutoff) ++ rows.filter fun row => cutoff ≤ row.ts) = rows ∧
        ∃ older changed, database.recent ⟨0, none, some cutoff⟩ = .ok older ∧
          database.purgeBefore cutoff = .ok (older.length, changed) ∧
          changed.tables.log.ordered = rows.filter fun row => cutoff ≤ row.ts) ∧
    (database.tailHead = .ok (endOf rows ⟨0, 0⟩) ∧
      ∀ limit, database.tailNext (endOf rows ⟨0, 0⟩) limit =
        (checkBatchLimit limit).map fun _ => ⟨[], endOf rows ⟨0, 0⟩⟩) ∧
    (∀ after limit, database.tailNext after limit =
      (checkBatchLimit limit).map fun _ =>
        let found := (rows.filter fun row => after.before row.position).take limit.toNat
        ⟨found.map LogRow.shown, endOf found after⟩) ∧
    ∀ (relay : Relay) (limit : Nat), relay.database = database → 0 < limit →
      relay.history limit =
        let found := (rows.rtake limit).map LogRow.shown
        .ok (Relay.rebuilt relay.enricher found,
          { relay with enricher := found.foldl Relay.remember relay.enricher }) := by
  intro database rows
  have serves : database.Serves := serves.run covered
  have ascending : Ascending rows := database.tables.log.ascending_ordered
  refine ⟨⟨database.tables.log.ordered_perm, ascending, ?_⟩, serves.recent_newest, ?_, ?_,
    ⟨serves.tailHead_eq, serves.tailNext_endOf⟩, serves.tailNext_eq, ?_⟩
  · intro row member
    apply LogRow.toMessage_eq_shown
    exact serves.readable row (database.tables.log.mem_ordered.mp member)
  · exact fun limit cutoff =>
      ⟨serves.recent_since limit cutoff, serves.recent_before limit cutoff⟩
  · exact fun cutoff =>
      ⟨ascending.filter_append_filter cutoff, serves.exists_purgeBefore cutoff⟩
  · intro relay limit same positive
    rw [Relay.history_eq (same ▸ serves) positive, same]

/-- Two messages of one second come in behind a later one, and a message is purged. -/
def toldEvents : List LogEvent :=
  [.insert (spoken "a" 2), .insert (spoken "b" 1), .insert (spoken "c" 1), .insert (spoken "d" 0),
    .purgeBefore 1000]

theorem scans_agree_told :
    let database := Relay.quiet.database.run toldEvents
    database.tables.log.ordered.map LogRow.position = [⟨1000, 2⟩, ⟨1000, 3⟩, ⟨2000, 1⟩] ∧
      database.recent ⟨2, none, none⟩ = .ok [spoken "a" 2, spoken "c" 1] ∧
      database.recent ⟨1, none, some 2000⟩ = .ok [spoken "c" 1] ∧
      database.tailNext ⟨1000, 2⟩ 1 = .ok ⟨[spoken "c" 1], ⟨1000, 3⟩⟩ ∧
      database.tailHead = .ok ⟨2000, 1⟩ := by
  have serves : Relay.quiet.database.Serves := ⟨⟨by decide +kernel, by decide +kernel⟩, rfl, nofun⟩
  have rows : (Relay.quiet.database.run toldEvents).tables.log.ordered =
      [.ofEntry (.ofMessage (spoken "b" 1)) 2 1000, .ofEntry (.ofMessage (spoken "c" 1)) 3 1000,
        .ofEntry (.ofMessage (spoken "a" 2)) 1 2000] := by decide +kernel
  obtain ⟨-, newest, bounded, -, ⟨head, -⟩, next, -⟩ :=
    scans_agree Relay.quiet.database serves toldEvents (List.all_eq_true.mp (by decide +kernel))
  refine ⟨?_, (newest 2).trans ?_, (bounded 1 2000).2.trans ?_, (next ⟨1000, 2⟩ 1).trans ?_,
    head.trans ?_⟩
  all_goals rw [rows]; decide +kernel

end LiveChat.Delivery
