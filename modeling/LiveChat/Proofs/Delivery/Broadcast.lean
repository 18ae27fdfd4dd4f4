import LiveChat.Delivery.Tailer
import LiveChat.Proofs.Chat.Rehydration
import LiveChat.Proofs.Delivery.SeenIds
import LiveChat.Proofs.Store.Queries

/-!
# What is offered to the viewers

A relay hands payloads to its hub in two ways. A message that it takes in is offered once, under a
noted id, and stored if the store allows it (`Relay.accept_cases`). Rows that are found in the log
are offered unless their ids are noted (`Relay.publishRow_cases`): of a batch whose own rows stay
noted, these are the foreign rows that a message can be rebuilt from, one payload each
(`Relay.exists_offers`).
-/

namespace LiveChat

namespace Store.LogRow

open LiveChat.Chat

def isReplayable (row : LogRow) (enricher : Enricher) : Bool :=
  match row.toMessage with
  | .ok message => enricher.replays message
  | .error _ => false

/-- The payload is one that an enricher with the options rebuilds from the row. -/
def Replays (row : LogRow) (options : EnrichOptions) (payload : String) : Prop :=
  ∃ (message : StoredMessage) (enricher : Enricher), row.toMessage = .ok message ∧
    enricher.options = options ∧ enricher.replayed? message = some payload

theorem isReplayable_of_toMessage {row : LogRow} {message : StoredMessage}
    (read : row.toMessage = .ok message) (enricher : Enricher) :
    row.isReplayable enricher = (enricher.replayed? message).isSome := by
  unfold isReplayable
  rw [read]
  rfl

theorem isReplayable_congr {left right : Enricher} (same : left.options = right.options)
    (row : LogRow) : row.isReplayable left = row.isReplayable right := by
  unfold isReplayable
  split
  · exact Enricher.replays_congr same _
  · rfl

end Store.LogRow

namespace Delivery

open LiveChat.Chat LiveChat.Store

def Hub.publishAll (hub : Hub) (payloads : List String) : Hub :=
  payloads.foldl (fun hub payload => (hub.publish payload).2) hub

theorem Hub.publishAll_append (hub : Hub) (first second : List String) :
    hub.publishAll (first ++ second) = (hub.publishAll first).publishAll second :=
  List.foldl_append

namespace Relay

/-- A relay on an empty store, with one viewer. -/
def quiet : Relay :=
  .new ⟨"chat.db", false, .initial 0 0, false, .empty⟩ (.new .default 0) Hub.empty.subscribe.2 .empty

/-- The first step of taking a message in. It gives the payload that is to be offered, unless the
message is dropped. -/
def store (relay : Relay) (value : Json) (origin : Option Platform) (stamp : Stamp) :
    Option String × Relay :=
  match relay.enricher.enrichValue value origin stamp.now with
  | (.error _, enricher) => (none, { relay with enricher := enricher })
  | (.ok message, enricher) =>
      (some message.payloadJson,
        ({ relay with enricher := enricher }.record (message.toStored stamp.id stamp.time)).2)

theorem accept_eq_store (relay : Relay) (value : Json) (origin : Option Platform)
    (stamp : Stamp) :
    (relay.accept value origin stamp).2 =
      match relay.store value origin stamp with
      | (none, changed) => changed
      | (some payload, changed) => changed.publish payload := by
  unfold accept store
  cases relay.enricher.enrichValue value origin stamp.now with
  | mk outcome enricher => cases outcome <;> rfl

/-- A dropped message changes nothing but the enricher. The id of any other is noted, and its row is
added or refused. -/
theorem store_cases (relay : Relay) (value : Json) (origin : Option Platform) (stamp : Stamp) :
    (∃ enricher : Enricher, enricher.options = relay.enricher.options ∧
      relay.store value origin stamp = (none, { relay with enricher := enricher })) ∨
      ∃ (payload : String) (enricher : Enricher) (database : Database),
        enricher.options = relay.enricher.options ∧
        (database = relay.database ∨
          ∃ row, row.id = stamp.id ∧ row.timestamp = stamp.time.truncated ∧
            relay.database.insertMessage row = .ok database) ∧
        relay.store value origin stamp =
          (some payload, ⟨database, enricher, relay.hub, (relay.seen.insert stamp.id).2⟩) := by
  have kept := relay.enricher.options_enrichValue value origin stamp.now
  cases enriched : relay.enricher.enrichValue value origin stamp.now with
  | mk outcome enricher =>
      rw [enriched] at kept
      cases outcome with
      | error reason =>
          refine Or.inl ⟨enricher, kept, ?_⟩
          simp only [store, enriched]
      | ok message =>
          refine Or.inr ⟨message.payloadJson, enricher, ?_⟩
          cases stored : relay.database.insertMessage (message.toStored stamp.id stamp.time) with
          | error failure =>
              refine ⟨relay.database, kept, Or.inl rfl, ?_⟩
              simp only [store, record, enriched, stored]
              rfl
          | ok database =>
              refine ⟨database, kept, Or.inr ⟨_, rfl, rfl, stored⟩, ?_⟩
              simp only [store, record, enriched, stored]
              rfl

/-- The id and the payload under which an incoming message is offered, unless it is dropped. -/
def admission? (relay : Relay) (value : Json) (origin : Option Platform) (stamp : Stamp) :
    Option (String × String) :=
  match (relay.accept value origin stamp).1, (relay.enricher.enrichValue value origin stamp.now).1 with
  | .published id _, .ok message => some (id, message.payloadJson)
  | _, _ => none

theorem admission?_eq_store (relay : Relay) (value : Json) (origin : Option Platform)
    (stamp : Stamp) :
    relay.admission? value origin stamp =
      (relay.store value origin stamp).1.map (Prod.mk stamp.id) := by
  unfold admission? accept store
  cases relay.enricher.enrichValue value origin stamp.now with
  | mk outcome enricher => cases outcome <;> rfl

/-- A dropped message leaves everything but the enricher as it is. Any other is noted and offered,
whether it can be stored or not. -/
theorem accept_cases (relay : Relay) (value : Json) (origin : Option Platform) (stamp : Stamp) :
    (relay.admission? value origin stamp = none ∧
      ∃ enricher : Enricher, enricher.options = relay.enricher.options ∧
        (relay.accept value origin stamp).2 = { relay with enricher := enricher }) ∨
      ∃ (payload : String) (enricher : Enricher) (database : Database),
        relay.admission? value origin stamp = some (stamp.id, payload) ∧
        enricher.options = relay.enricher.options ∧
        (database = relay.database ∨
          ∃ row, row.id = stamp.id ∧ relay.database.insertMessage row = .ok database) ∧
        (relay.accept value origin stamp).2 =
          ⟨database, enricher, relay.hub.publishAll [payload], (relay.seen.insert stamp.id).2⟩ := by
  rw [accept_eq_store, admission?_eq_store]
  rcases relay.store_cases value origin stamp with
    ⟨enricher, kept, same⟩ | ⟨payload, enricher, database, kept, stored, same⟩
  · rw [same]
    exact Or.inl ⟨rfl, enricher, kept, rfl⟩
  · rw [same]
    refine Or.inr ⟨payload, enricher, database, rfl, kept, stored.imp_right ?_, rfl⟩
    rintro ⟨row, id, -, added⟩
    exact ⟨row, id, added⟩

/-- A row that is noted or has no id is passed over. Any other is noted, and its payload is offered
if it has one. -/
theorem publishRow_cases (relay : Relay) (row : StoredMessage) :
    ((row.id = "" ∨ relay.seen.contains row.id = true) ∧ relay.publishRow row = (false, relay)) ∨
      (row.id ≠ "" ∧ relay.seen.contains row.id = false ∧
        ∃ enricher : Enricher, enricher.options = relay.enricher.options ∧
          (relay.publishRow row).2 =
            ⟨relay.database, enricher, relay.hub.publishAll (relay.enricher.replayed? row).toList,
              (relay.seen.insert row.id).2⟩) := by
  unfold publishRow
  by_cases anonymous : row.id = ""
  · rw [if_pos anonymous]
    exact Or.inl ⟨Or.inl anonymous, rfl⟩
  · rw [if_neg anonymous]
    by_cases known : relay.seen.contains row.id = true
    · rw [SeenIds.insert_of_contains known]
      exact Or.inl ⟨Or.inr known, rfl⟩
    · have unknown := Bool.eq_false_iff.mpr known
      have fresh : relay.seen.insert row.id = (true, (relay.seen.insert row.id).2) := by
        refine Prod.ext ?_ rfl
        rw [SeenIds.fst_insert, unknown]
        rfl
      have kept := relay.enricher.options_rehydrate row
      refine Or.inr ⟨anonymous, unknown, (relay.enricher.rehydrate row).2, kept, ?_⟩
      rw [fresh]
      unfold Enricher.replayed?
      cases rebuilt : relay.enricher.rehydrate row with
      | mk outcome enricher => cases outcome <;> rfl

/-- No row of the batch makes the set of noted ids forget. -/
def remembers (relay : Relay) : List StoredMessage → Bool
  | [] => true
  | row :: rest =>
      (row.id = "" || !relay.seen.forgets row.id) && (relay.publishRow row).2.remembers rest

theorem publishRows_cons (relay : Relay) (row : StoredMessage) (rest : List StoredMessage) :
    (relay.publishRows (row :: rest)).2 = ((relay.publishRow row).2.publishRows rest).2 := rfl

theorem publishRows_keeps (relay : Relay) (rows : List StoredMessage) :
    (relay.publishRows rows).2.database = relay.database ∧
      (relay.publishRows rows).2.enricher.options = relay.enricher.options := by
  induction rows generalizing relay with
  | nil => exact ⟨rfl, rfl⟩
  | cons row rest ih =>
      obtain ⟨database, options⟩ := ih (relay.publishRow row).2
      rw [publishRows_cons, database, options]
      rcases relay.publishRow_cases row with ⟨-, same⟩ | ⟨-, -, enricher, kept, same⟩
      · rw [same]
        exact ⟨rfl, rfl⟩
      · rw [same]
        exact ⟨rfl, kept⟩

/-- Sending rows notes the ids of these rows and no other. -/
theorem contains_of_publishRows {relay : Relay} {rows : List StoredMessage} {id : String}
    (noted : (relay.publishRows rows).2.seen.contains id = true) :
    relay.seen.contains id = true ∨ id ≠ "" ∧ ∃ row ∈ rows, row.id = id := by
  induction rows generalizing relay with
  | nil => exact Or.inl noted
  | cons row rest ih =>
      rw [publishRows_cons] at noted
      rcases ih noted with known | ⟨given, other, member, same⟩
      · rcases relay.publishRow_cases row with ⟨-, same⟩ | ⟨given, -, enricher, -, same⟩
        · rw [same] at known
          exact Or.inl known
        · rw [same] at known
          by_cases this : id = row.id
          · rw [this]
            exact Or.inr ⟨given, row, List.mem_cons_self, rfl⟩
          · exact Or.inl (SeenIds.contains_of_contains_insert known this)
      · exact Or.inr ⟨given, other, List.mem_cons_of_mem _ member, same⟩

theorem remembers_cons {relay : Relay} {row : StoredMessage} {rest : List StoredMessage}
    (remembered : relay.remembers (row :: rest) = true) :
    (row.id ≠ "" → relay.seen.forgets row.id = false) ∧
      (relay.publishRow row).2.remembers rest = true := by
  rw [remembers, Bool.and_eq_true, Bool.or_eq_true, decide_eq_true_eq, Bool.not_eq_true'] at remembered
  exact ⟨remembered.1.resolve_left, remembered.2⟩

/-- Sending rows loses no noted id, as long as none of them makes the set forget. -/
theorem contains_publishRows {relay : Relay} {rows : List StoredMessage} {id : String}
    (remembered : relay.remembers rows = true) (known : relay.seen.contains id = true) :
    (relay.publishRows rows).2.seen.contains id = true := by
  induction rows generalizing relay with
  | nil => exact known
  | cons row rest ih =>
      obtain ⟨kept, remembered⟩ := remembers_cons remembered
      rw [publishRows_cons]
      refine ih remembered ?_
      rcases relay.publishRow_cases row with ⟨-, same⟩ | ⟨given, -, enricher, -, same⟩
      · rw [same]
        exact known
      · rw [same]
        exact SeenIds.contains_insert_of_contains (kept given) known

end Relay

end Delivery

namespace Store.LogRow

open LiveChat.Delivery

def isNoted (row : LogRow) (seen : SeenIds) : Bool := row.id.any seen.contains

/-- The row has an id, which is not empty and not noted. -/
def isUnsent (row : LogRow) (seen : SeenIds) : Bool :=
  row.id.any fun id => id ≠ "" && !seen.contains id

theorem isNoted_iff {row : LogRow} {seen : SeenIds} :
    row.isNoted seen = true ↔ ∃ id, row.id = some id ∧ seen.contains id = true := by
  rw [isNoted, Option.any_eq_true]

theorem isUnsent_iff {row : LogRow} {seen : SeenIds} :
    row.isUnsent seen = true ↔ ∃ id, row.id = some id ∧ id ≠ "" ∧ seen.contains id = false := by
  simp only [isUnsent, Option.any_eq_true, Bool.and_eq_true, decide_eq_true_eq, Bool.not_eq_true']

end Store.LogRow

namespace Delivery

open LiveChat.Store

/-- The set of noted ids tells the foreign rows of a batch from its own ones. -/
structure SeenIds.Separates (seen : SeenIds) (foreign : LogRow → Bool) (rows : List LogRow) :
    Prop where
  keyed : rows.Pairwise fun earlier later => earlier.id ≠ none → earlier.id ≠ later.id
  unsent : ∀ row ∈ rows, foreign row = true → row.isUnsent seen = true
  noted : ∀ row ∈ rows, foreign row = false → row.isNoted seen = true

namespace SeenIds.Separates

variable {seen : SeenIds} {foreign : LogRow → Bool} {row : LogRow} {rows : List LogRow}

theorem tail (separates : seen.Separates foreign (row :: rows)) :
    seen.Separates foreign rows where
  keyed := (List.pairwise_cons.mp separates.keyed).2
  unsent other member := separates.unsent other (List.mem_cons_of_mem _ member)
  noted other member := separates.noted other (List.mem_cons_of_mem _ member)

theorem note (separates : seen.Separates foreign (row :: rows)) {id : String}
    (given : row.id = some id)
    (kept : seen.forgets id = false ∨ ∀ other ∈ row :: rows, foreign other = true) :
    (seen.insert id).2.Separates foreign rows where
  keyed := separates.tail.keyed
  unsent other member outside := by
    obtain ⟨key, found, nonempty, fresh⟩ :=
      LogRow.isUnsent_iff.mp (separates.tail.unsent other member outside)
    refine LogRow.isUnsent_iff.mpr ⟨key, found, nonempty, ?_⟩
    have different : key ≠ id := by
      rintro rfl
      refine (List.pairwise_cons.mp separates.keyed).1 other member ?_ (given.trans found.symm)
      rw [given]
      exact Option.some_ne_none _
    rw [Bool.eq_false_iff] at *
    exact fun recorded => fresh (contains_of_contains_insert recorded different)
  noted other member own := by
    obtain ⟨key, found, known⟩ := LogRow.isNoted_iff.mp (separates.tail.noted other member own)
    rcases kept with kept | all
    · exact LogRow.isNoted_iff.mpr ⟨key, found, contains_insert_of_contains kept known⟩
    · rw [all other (List.mem_cons_of_mem _ member)] at own
      cases own

theorem id_of_foreign (separates : seen.Separates foreign (row :: rows))
    (outside : foreign row = true) {message : StoredMessage}
    (read : row.toMessage = .ok message) :
    row.id = some message.id ∧ message.id ≠ "" ∧ seen.contains message.id = false := by
  obtain ⟨id, found, nonempty, fresh⟩ :=
    LogRow.isUnsent_iff.mp (separates.unsent row List.mem_cons_self outside)
  have same : message.id = id := by
    rw [LogRow.id_of_toMessage read, found, Option.getD_some]
  rw [same]
  exact ⟨found, nonempty, fresh⟩

theorem contains_of_own (separates : seen.Separates foreign (row :: rows))
    (own : foreign row = false) {message : StoredMessage} (read : row.toMessage = .ok message) :
    seen.contains message.id = true := by
  obtain ⟨id, found, known⟩ :=
    LogRow.isNoted_iff.mp (separates.noted row List.mem_cons_self own)
  rw [LogRow.id_of_toMessage read, found, Option.getD_some]
  exact known

end SeenIds.Separates

namespace Relay

/-- A row is offered just when it is foreign and a message can be rebuilt from it, and the others
can still be told apart then. -/
theorem exists_offer (relay : Relay) {foreign : LogRow → Bool} {row : LogRow}
    {rows : List LogRow} {message : StoredMessage} (read : row.toMessage = .ok message)
    (separates : relay.seen.Separates foreign (row :: rows))
    (kept : (message.id ≠ "" → relay.seen.forgets message.id = false) ∨
      ∀ other ∈ row :: rows, foreign other = true) :
    (relay.publishRow message).2.seen.Separates foreign rows ∧
      (relay.publishRow message).2.enricher.options = relay.enricher.options ∧
      ∃ offers : List (LogRow × String),
        (relay.publishRow message).2.hub = relay.hub.publishAll (offers.map Prod.snd) ∧
        offers.map Prod.fst =
          [row].filter (fun row => foreign row && row.isReplayable relay.enricher) ∧
        ∀ offer ∈ offers, offer.1.Replays relay.enricher.options offer.2 := by
  rcases relay.publishRow_cases message with
    ⟨passed, same⟩ | ⟨given, unknown, enricher, options, same⟩
  · have own : foreign row = false := by
      by_contra outside
      obtain ⟨-, given, unknown⟩ :=
        separates.id_of_foreign ((Bool.not_eq_false _).mp outside) read
      rw [unknown] at passed
      exact passed.elim given Bool.false_ne_true
    rw [same]
    refine ⟨separates.tail, rfl, [], rfl, ?_, fun offer member => by cases member⟩
    rw [List.filter_singleton, own]
    rfl
  · have outside : foreign row = true := by
      by_contra own
      rw [separates.contains_of_own ((Bool.not_eq_true _).mp own) read] at unknown
      cases unknown
    have replayable := LogRow.isReplayable_of_toMessage read relay.enricher
    have replays (payload : String) (found : relay.enricher.replayed? message = some payload) :
        row.Replays relay.enricher.options payload := ⟨message, relay.enricher, read, rfl, found⟩
    rw [same]
    refine ⟨separates.note (separates.id_of_foreign outside read).1
      (kept.imp_left fun remembered => remembered given), options, ?_⟩
    generalize relay.enricher.replayed? message = payload at *
    refine ⟨payload.toList.map (Prod.mk row), ?_, ?_, ?_⟩
    · cases payload <;> rfl
    · rw [List.filter_singleton, outside, replayable]
      cases payload <;> rfl
    · intro offer member
      obtain ⟨text, found, rfl⟩ := List.mem_map.mp member
      exact replays text (Option.mem_toList.mp found)

/-- The offers of a batch: its foreign rows that a message can be rebuilt from, one payload each, in
the order of the batch. -/
theorem exists_offers (relay : Relay) {foreign : LogRow → Bool} {rows : List LogRow}
    {messages : List StoredMessage}
    (read : List.Forall₂ (fun row message => row.toMessage = .ok message) rows messages)
    (separates : relay.seen.Separates foreign rows)
    (kept : relay.remembers messages = true ∨ ∀ row ∈ rows, foreign row = true) :
    ∃ offers : List (LogRow × String),
      (relay.publishRows messages).2.hub = relay.hub.publishAll (offers.map Prod.snd) ∧
      offers.map Prod.fst =
        rows.filter (fun row => foreign row && row.isReplayable relay.enricher) ∧
      ∀ offer ∈ offers, offer.1.Replays relay.enricher.options offer.2 := by
  induction read generalizing relay with
  | nil => exact ⟨[], rfl, rfl, fun offer member => by cases member⟩
  | @cons row message rows messages head tail ih =>
      obtain ⟨rest, options, first, hub, sent, replayed⟩ := relay.exists_offer head separates
        (kept.imp_left fun remembered => (remembers_cons remembered).1)
      obtain ⟨later, hub_later, sent_later, replayed_later⟩ := ih (relay.publishRow message).2 rest
        (kept.imp (fun remembered => (remembers_cons remembered).2)
          fun all other member => all other (List.mem_cons_of_mem _ member))
      have agree : (fun row : LogRow =>
          foreign row && row.isReplayable (relay.publishRow message).2.enricher) =
            fun row => foreign row && row.isReplayable relay.enricher :=
        funext fun row => by rw [LogRow.isReplayable_congr options]
      refine ⟨first ++ later, ?_, ?_, ?_⟩
      · rw [publishRows_cons, hub_later, hub, List.map_append, Hub.publishAll_append]
      · rw [List.map_append, sent, sent_later, agree, ← List.filter_append]
        rfl
      · intro offer member
        rcases List.mem_append.mp member with old | new
        · exact replayed offer old
        · rw [← options]
          exact replayed_later offer new

end Relay

end Delivery

end LiveChat
