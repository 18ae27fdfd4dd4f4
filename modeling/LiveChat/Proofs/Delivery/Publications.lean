import LiveChat.Proofs.Delivery.Course

/-!
# What the hub was given

Along a course the hub is given one payload for each message that the relay took in, and one for
each foreign row that the tailer has passed and that a message can be rebuilt from
(`Course.Invariant`). Every event keeps it so (`Course.Invariant.step`) as long as the set of noted
ids forgets nothing, or as long as there is nothing but foreign rows to be found.
-/

namespace LiveChat.Delivery

open LiveChat.Chat LiveChat.Store

/-- What the hub is given. -/
inductive Publication where
  /-- A message that the relay took in. -/
  | own (id payload : String)
  /-- A message that the tailer rebuilt. -/
  | tailed (row : LogRow) (payload : String)

namespace Publication

def payload : Publication → String
  | .own _ payload => payload
  | .tailed _ payload => payload

def own? : Publication → Option (String × String)
  | .own id payload => some (id, payload)
  | .tailed _ _ => none

def row? : Publication → Option LogRow
  | .own _ _ => none
  | .tailed row _ => some row

def ofOffer (offer : LogRow × String) : Publication := .tailed offer.1 offer.2

theorem map_payload_ofOffer (offers : List (LogRow × String)) :
    (offers.map ofOffer).map payload = offers.map Prod.snd := by
  rw [List.map_map]
  rfl

theorem filterMap_own?_ofOffer (offers : List (LogRow × String)) :
    (offers.map ofOffer).filterMap own? = [] := by
  rw [List.filterMap_map]
  exact List.filterMap_eq_nil_iff.mpr fun _ _ => rfl

theorem filterMap_row?_ofOffer (offers : List (LogRow × String)) :
    (offers.map ofOffer).filterMap row? = offers.map Prod.fst := by
  rw [List.filterMap_map, ← List.filterMap_eq_map]
  rfl

end Publication

def DeliveryEvent.isOwn : DeliveryEvent → Bool
  | .accept _ _ _ => true
  | _ => false

namespace Course

/-- Nothing but foreign rows is behind the position of the tailer. -/
def OnlyForeign (course : Course) : Prop :=
  ∀ row ∈ course.log.rows, course.position.before row.position = true → row ∈ course.foreign

/-- After a start from a relay, the tailer has taken certain rows, and the hub was given certain
publications. -/
structure Invariant (relay : Relay) (course : Course) (taken : List LogRow)
    (publications : List Publication) : Prop where
  coverage : Coverage course.log course.position course.due taken
  separated : Separated course.log course.position course.relay.seen course.foreign
  options : course.relay.enricher.options = relay.enricher.options
  hub : course.relay.hub = relay.hub.publishAll (publications.map Publication.payload)
  own : publications.filterMap Publication.own? = course.admitted
  tailed : publications.filterMap Publication.row? =
    taken.filter fun row => decide (row ∈ course.foreign) && row.isReplayable relay.enricher
  replays : ∀ row payload, Publication.tailed row payload ∈ publications →
    row.Replays relay.enricher.options payload

namespace Invariant

variable {relay : Relay} {course : Course} {taken : List LogRow} {publications : List Publication}

theorem start {relay : Relay} {tailer : Tailer} (offsets : OffsetDisk)
    (nothing : ∀ row ∈ relay.database.tables.log.rows,
      ¬ tailer.position.before row.position = true) :
    (Course.start relay tailer offsets).Invariant relay [] [] where
  coverage := .start _ _
  separated := .start _ nothing
  options := rfl
  hub := rfl
  own := rfl
  tailed := rfl
  replays row payload member := by cases member

theorem dueIn_self (course : Course) : course.dueIn course.log = [] := by
  unfold dueIn
  rw [MessageLog.arrivals_self]
  rfl

/-- A message is noted and offered. -/
theorem offer (invariant : course.Invariant relay taken publications) {id : String}
    (payload : String) {enricher : Enricher} (unused : course.log.hasId id = false)
    (room : course.relay.seen.forgets id = false)
    (options : enricher.options = course.relay.enricher.options) :
    Invariant relay
      { course with
        relay := ⟨course.relay.database, enricher, course.relay.hub.publishAll [payload],
          (course.relay.seen.insert id).2⟩
        admitted := course.admitted ++ [(id, payload)] }
      taken (publications ++ [.own id payload]) where
  coverage := invariant.coverage
  separated := invariant.separated.note unused room
  options := options.trans invariant.options
  hub := by
    rw [List.map_append, Hub.publishAll_append, ← invariant.hub]
    rfl
  own := by
    rw [List.filterMap_append, invariant.own]
    rfl
  tailed := by
    rw [List.filterMap_append, invariant.tailed]
    exact List.append_nil _
  replays := by
    intro row text member
    rcases List.mem_append.mp member with old | new
    · exact invariant.replays row text old
    · cases List.mem_singleton.mp new

/-- A row comes in that is noted. -/
theorem store (invariant : course.Invariant relay taken publications) {log : MessageLog}
    {row : LogRow} (rows : log.rows = course.log.rows ++ [row])
    (noted : row.isNoted course.relay.seen = true) :
    Invariant relay
      { course with
        relay := { course.relay with database := course.relay.database.withLog log }
        due := course.due ++ course.dueIn log }
      taken publications where
  coverage := invariant.coverage.arrive rows
  separated := invariant.separated.own rows noted
  options := invariant.options
  hub := invariant.hub
  own := invariant.own
  tailed := invariant.tailed
  replays := invariant.replays

theorem accept (invariant : course.Invariant relay taken publications) {value : Json}
    {origin : Option Platform} {stamp : Stamp} (unused : course.log.hasId stamp.id = false)
    (kept : course.remembers (.accept value origin stamp) = true) :
    ∃ more, (course.step (.accept value origin stamp)).Invariant relay taken
      (publications ++ more) := by
  have unchanged : course.dueIn course.relay.database.tables.log = [] := dueIn_self course
  rcases course.relay.accept_cases value origin stamp with
    ⟨dropped, enricher, options, same⟩ | ⟨payload, enricher, database, admitted, options, stored, same⟩
  · have step : course.step (.accept value origin stamp) =
        { course with relay := { course.relay with enricher := enricher } } := by
      simp only [Course.step, same, dropped, unchanged, Option.toList_none, List.append_nil]
    refine ⟨[], ?_⟩
    rw [step, List.append_nil]
    exact { invariant with options := options.trans invariant.options }
  · have room : course.relay.seen.forgets stamp.id = false := by
      simpa only [remembers, admitted, Option.all_some, Bool.not_eq_true'] using kept
    have offered := invariant.offer payload unused room options
    have step : course.step (.accept value origin stamp) =
        { course with
          relay := ⟨database, enricher, course.relay.hub.publishAll [payload],
            (course.relay.seen.insert stamp.id).2⟩
          admitted := course.admitted ++ [(stamp.id, payload)]
          due := course.due ++ course.dueIn database.tables.log } := by
      simp only [Course.step, same, admitted, Option.toList_some]
    refine ⟨[.own stamp.id payload], ?_⟩
    rw [step]
    rcases stored with rfl | ⟨message, id, stored⟩
    · rw [unchanged, List.append_nil]
      exact offered
    · obtain ⟨log, added, rfl⟩ := Database.insertMessage_eq_ok stored
      obtain ⟨-, rows⟩ := MessageLog.rows_of_insertMessage added
      refine offered.store rows ?_
      exact LogRow.isNoted_iff.mpr
        ⟨stamp.id, congrArg some id, SeenIds.contains_insert_self _ _⟩

theorem insert (invariant : course.Invariant relay taken publications) {message : StoredMessage}
    (nonempty : message.id ≠ "") (unnoted : course.relay.seen.contains message.id = false) :
    (course.step (.insert message)).Invariant relay taken publications := by
  simp only [Course.step]
  split
  · rename_i log added
    obtain ⟨-, rows⟩ := MessageLog.rows_of_insertMessage added
    have unsent : (course.log.rowFor message).isUnsent course.relay.seen = true :=
      LogRow.isUnsent_iff.mpr ⟨message.id, rfl, nonempty, unnoted⟩
    have fresh : course.log.rowFor message ∉ course.log.rows := by
      have nodup := log.rows_nodup
      rw [rows, List.nodup_append] at nodup
      exact fun member => nodup.2.2 _ member _ (List.mem_singleton_self _) rfl
    rw [MessageLog.arrivals_of_append rows]
    exact
      { coverage := invariant.coverage.arrive rows
        separated := invariant.separated.arrive rows unsent
        options := invariant.options
        hub := invariant.hub
        own := invariant.own
        tailed := by
          rw [invariant.tailed]
          refine List.filter_congr fun row member => ?_
          have different : row ≠ course.log.rowFor message := by
            rintro rfl
            exact fresh (invariant.coverage.mem_rows_of_mem_taken member)
          simp only [List.mem_append, List.mem_singleton, different, or_false]
        replays := invariant.replays }
  · exact invariant

theorem poll (invariant : course.Invariant relay taken publications)
    (kept : course.remembers .poll = true ∨ course.OnlyForeign) :
    ∃ rows more, (course.step .poll).Invariant relay (taken ++ rows) (publications ++ more) := by
  rcases course.step_poll with ⟨-, same⟩ | ⟨batch, offsets, found, same⟩
  · refine ⟨[], [], ?_⟩
    rw [same, List.append_nil, List.append_nil]
    exact invariant
  · obtain ⟨read, last⟩ := scan_eq_ok found
    have remembered : course.relay.remembers batch.messages = true ∨ course.OnlyForeign := by
      simpa only [remembers, found] using kept
    obtain ⟨database, options⟩ := course.relay.publishRows_keeps batch.messages
    obtain ⟨offers, hub, sent, replayed⟩ := course.relay.exists_offers
      ((messagesOf_eq_ok_iff _ _).mp read) (invariant.separated.separates _)
      (remembered.imp_right fun all row member => by
        obtain ⟨present, behind⟩ := MessageLog.mem_of_mem_rowsAfter _ _ _ member
        exact decide_eq_true (all row present behind))
    have agree : (fun row : LogRow =>
        decide (row ∈ course.foreign) && row.isReplayable course.relay.enricher) =
          fun row => decide (row ∈ course.foreign) && row.isReplayable relay.enricher :=
      funext fun row => by rw [LogRow.isReplayable_congr invariant.options]
    refine ⟨course.scanned, offers.map Publication.ofOffer, ?_⟩
    rw [same]
    have log : (course.relay.publishRows batch.messages).2.database.tables.log = course.log :=
      congrArg (fun database => database.tables.log) database
    exact
      { coverage := by
          simp only [Course.log, position, log, last]
          exact invariant.coverage.scan _
        separated := by
          simp only [Course.log, position, log, last]
          exact invariant.separated.scan read remembered
        options := options.trans invariant.options
        hub := by
          rw [List.map_append, Publication.map_payload_ofOffer, Hub.publishAll_append,
            ← invariant.hub]
          exact hub
        own := by
          rw [List.filterMap_append, Publication.filterMap_own?_ofOffer, List.append_nil]
          exact invariant.own
        tailed := by
          rw [List.filterMap_append, Publication.filterMap_row?_ofOffer, List.filter_append, sent,
            invariant.tailed, agree]
        replays := by
          intro row payload member
          rcases List.mem_append.mp member with old | new
          · exact invariant.replays row payload old
          · obtain ⟨offer, listed, equal⟩ := List.mem_map.mp new
            cases equal
            rw [← invariant.options]
            exact replayed offer listed }

theorem step (invariant : course.Invariant relay taken publications) {event : DeliveryEvent}
    {rest : List DeliveryEvent} (fresh : course.Fresh (event :: rest))
    (kept : course.remembers event = true ∨ event.isOwn = false ∧ course.OnlyForeign) :
    ∃ taken publications, (course.step event).Invariant relay taken publications := by
  cases event with
  | accept value origin stamp =>
      have remembered := kept.resolve_right fun impossible => Bool.noConfusion impossible.1
      obtain ⟨more, accepted⟩ := invariant.accept (fresh.head rfl).1 remembered
      exact ⟨taken, _, accepted⟩
  | insert message =>
      exact ⟨taken, publications,
        invariant.insert (fresh.nonempty message List.mem_cons_self) (fresh.head rfl).2⟩
  | poll =>
      obtain ⟨rows, more, polled⟩ := invariant.poll (kept.imp_right And.right)
      exact ⟨_, _, polled⟩
  | outage down => exact ⟨taken, publications, { invariant with }⟩

end Invariant

/-- Events of others and scans leave nothing but foreign rows behind the position. -/
theorem OnlyForeign.step {course : Course} (only : course.OnlyForeign) {event : DeliveryEvent}
    (outside : event.isOwn = false) : (course.step event).OnlyForeign := by
  cases event with
  | accept value origin stamp => cases outside
  | insert message =>
      simp only [Course.step]
      split
      · rename_i log added
        obtain ⟨-, rows⟩ := MessageLog.rows_of_insertMessage added
        intro row member behind
        change row ∈ log.rows at member
        rw [MessageLog.arrivals_of_append rows, List.mem_append]
        rw [rows, List.mem_append] at member
        exact member.imp_left fun old => only row old behind
      · exact only
  | poll =>
      rcases course.step_poll with ⟨-, same⟩ | ⟨batch, offsets, found, same⟩
      · rw [same]
        exact only
      · have database := (course.relay.publishRows_keeps batch.messages).1
        rw [same]
        intro row member beyond
        refine only row ?_ ?_
        · simpa only [log, database] using member
        · have last := (scan_eq_ok found).2
          simp only [position, last] at beyond
          exact Position.before_of_not_before (course.log.not_reached_before _ _) beyond
  | outage down => exact only

/-- **Publications of a course.** As long as the set of noted ids forgets nothing, or there is
nothing but foreign rows to be found, the hub is given the publications that belong to the rows that
the tailer has taken. -/
theorem Invariant.run {relay : Relay} {course : Course} {taken : List LogRow}
    {publications : List Publication} (invariant : course.Invariant relay taken publications)
    (events : List DeliveryEvent) (fresh : course.Fresh events)
    (kept : course.throughout remembers events = true ∨
      (∀ event ∈ events, event.isOwn = false) ∧ course.OnlyForeign) :
    ∃ taken publications, (course.run events).Invariant relay taken publications := by
  induction events generalizing course taken publications with
  | nil => exact ⟨taken, publications, invariant⟩
  | cons event rest ih =>
      rcases kept with remembered | ⟨outside, only⟩
      · rw [throughout, Bool.and_eq_true] at remembered
        obtain ⟨next, given, stepped⟩ := invariant.step fresh (Or.inl remembered.1)
        exact ih stepped fresh.step (Or.inl remembered.2)
      · have first := outside event List.mem_cons_self
        obtain ⟨next, given, stepped⟩ := invariant.step fresh (Or.inr ⟨first, only⟩)
        refine ih stepped fresh.step (Or.inr ⟨?_, only.step first⟩)
        exact fun other member => outside other (List.mem_cons_of_mem _ member)

end Course

end LiveChat.Delivery
