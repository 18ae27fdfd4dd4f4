import LiveChat.Proofs.Delivery.Broadcast
import LiveChat.Proofs.Store.Newest

/-!
# The stored messages that a viewer receives

A replay rebuilds rows one after the other, each with what is remembered from those before it
(`Relay.replay_eq`). So the history is one payload for each of the newest rows that a message can be
rebuilt from, in the order of the log (`Relay.history_eq_ok`). Reading it changes nothing but the
enricher.
-/

namespace LiveChat.Delivery.Relay

open LiveChat.Chat LiveChat.Store

-- A replay is taken apart without looking into what rebuilds a message.
attribute [local irreducible] Enricher.rehydrate

theorem replay_cons (enricher : Enricher) (row : StoredMessage) (rest : List StoredMessage) :
    replay enricher (row :: rest) =
      match enricher.rehydrate row with
      | (.ok message, changed) =>
          (message.payloadJson :: (replay changed rest).1, (replay changed rest).2)
      | (.error _, changed) => replay changed rest := rfl

theorem replay_of_some {enricher : Enricher} {row : StoredMessage} {payload : String}
    (found : enricher.replayed? row = some payload) (rest : List StoredMessage) :
    replay enricher (row :: rest) =
      (payload :: (replay (enricher.rehydrate row).2 rest).1,
        (replay (enricher.rehydrate row).2 rest).2) := by
  unfold Enricher.replayed? at found
  rw [replay_cons]
  cases rebuilt : enricher.rehydrate row with
  | mk outcome changed =>
      rw [rebuilt] at found
      cases outcome with
      | error reason => cases found
      | ok message =>
          cases found
          rfl

theorem replay_of_none {enricher : Enricher} {row : StoredMessage}
    (dropped : enricher.replayed? row = none) (rest : List StoredMessage) :
    replay enricher (row :: rest) = replay (enricher.rehydrate row).2 rest := by
  unfold Enricher.replayed? at dropped
  rw [replay_cons]
  cases rebuilt : enricher.rehydrate row with
  | mk outcome changed =>
      rw [rebuilt] at dropped
      cases outcome with
      | error reason => rfl
      | ok message => cases dropped

/-- The enricher that is left when a row has been rebuilt. -/
def remember (enricher : Enricher) (row : StoredMessage) : Enricher := (enricher.rehydrate row).2

/-- The payloads of rows that are rebuilt one after the other. The rows that no message can be made
of are left out. -/
def rebuilt (enricher : Enricher) (rows : List StoredMessage) : List String :=
  ((rows.scanl remember enricher).zip rows).filterMap fun entry => entry.1.replayed? entry.2

theorem replay_eq (enricher : Enricher) (rows : List StoredMessage) :
    replay enricher rows = (rebuilt enricher rows, rows.foldl remember enricher) := by
  induction rows generalizing enricher with
  | nil => rfl
  | cons row rest ih =>
      have later : rebuilt enricher (row :: rest) =
          (enricher.replayed? row).toList ++ rebuilt (remember enricher row) rest := by
        rw [rebuilt, List.scanl_cons, List.zip_cons_cons, List.filterMap_cons]
        cases enricher.replayed? row <;> rfl
      rw [later, List.foldl_cons]
      cases found : enricher.replayed? row with
      | some payload =>
          rw [replay_of_some found, ← remember, ih]
          rfl
      | none =>
          rw [replay_of_none found, ← remember, ih]
          rfl

/-- A replay gives one payload for each row that a message can be rebuilt from. -/
theorem forall₂_replay (enricher : Enricher) {rows : List LogRow} {messages : List StoredMessage}
    (read : List.Forall₂ (fun row message => row.toMessage = .ok message) rows messages) :
    (replay enricher messages).2.options = enricher.options ∧
      List.Forall₂ (fun row payload => row.Replays enricher.options payload)
        (rows.filter fun row => row.isReplayable enricher) (replay enricher messages).1 := by
  induction read generalizing enricher with
  | nil => exact ⟨rfl, .nil⟩
  | @cons row message rows messages head tail ih =>
      have options := enricher.options_rehydrate message
      obtain ⟨kept, rest⟩ := ih (enricher.rehydrate message).2
      have agree : (fun row : LogRow => row.isReplayable (enricher.rehydrate message).2) =
          fun row => row.isReplayable enricher :=
        funext fun row => LogRow.isReplayable_congr options row
      rw [agree, options] at rest
      have replayable : row.isReplayable enricher = (enricher.replayed? message).isSome := by
        unfold LogRow.isReplayable
        rw [head]
        rfl
      rw [List.filter_cons, replayable]
      cases found : enricher.replayed? message with
      | none =>
          rw [replay_of_none found]
          exact ⟨kept.trans options, rest⟩
      | some payload =>
          rw [replay_of_some found]
          exact ⟨kept.trans options, .cons ⟨message, enricher, head, rfl, found⟩ rest⟩

theorem history_eq_ok {relay read : Relay} {limit : Nat} (positive : 0 < limit)
    {payloads : List String} (found : relay.history limit = .ok (payloads, read)) :
    (∃ enricher : Enricher, enricher.options = relay.enricher.options ∧
      read = { relay with enricher := enricher }) ∧
      List.Forall₂ (fun row payload => row.Replays relay.enricher.options payload)
        ((relay.database.tables.log.latest limit).filter fun row =>
          row.isReplayable relay.enricher) payloads := by
  unfold history at found
  rw [if_neg (Nat.pos_iff_ne_zero.mp positive)] at found
  obtain ⟨messages, recent, found⟩ := bind_eq_ok.mp found
  have rows := (messagesOf_eq_ok_iff _ _).mp (Database.recent_latest_eq_ok positive recent)
  obtain ⟨options, replays⟩ := forall₂_replay relay.enricher rows
  cases found
  exact ⟨⟨_, options, rfl⟩, replays⟩

/-- The history can be had from a store that answers and has readable rows only. -/
theorem exists_history {relay : Relay} (answers : relay.database.Answers)
    (readable : ∀ row ∈ relay.database.tables.log.rows, row.isReadable = true) {limit : Nat}
    (positive : 0 < limit) : ∃ payloads read, relay.history limit = .ok (payloads, read) := by
  obtain ⟨messages, recent⟩ := Database.exists_recent_latest answers readable positive
  refine ⟨(replay relay.enricher messages.reverse).1,
    { relay with enricher := (replay relay.enricher messages.reverse).2 }, ?_⟩
  unfold history
  rw [if_neg (Nat.pos_iff_ne_zero.mp positive), recent]
  rfl

end LiveChat.Delivery.Relay
