import LiveChat.Proofs.Store.LogOrder

/-!
# What queries change and return

One statement for each query that others build on: adding a row puts it at the end of the log or
changes nothing (`MessageLog.insertMessage_cases`), and a forward scan returns the messages of the
rows behind its cursor together with the position that it reached (`Database.tailNext_eq_ok`), which
it can do as long as the store answers (`Database.exists_tailNext`).
-/

namespace LiveChat

theorem bind_eq_ok {α β : Type} {first : Result α} {second : α → Result β} {result : β} :
    (first >>= second) = .ok result ↔ ∃ value, first = .ok value ∧ second value = .ok result := by
  cases first with
  | error failure =>
      constructor
      · intro impossible
        cases impossible
      · rintro ⟨value, impossible, -⟩
        cases impossible
  | ok value =>
      constructor
      · intro done
        exact ⟨value, rfl, done⟩
      · rintro ⟨same, equal, done⟩
        cases equal
        exact done

namespace Store

open LiveChat.Time

/-- A row whose timestamp the clock covers, so that it has a message. -/
def LogRow.isReadable (row : LogRow) : Bool := (Timestamp.ofMillis? row.ts).isSome

theorem LogRow.exists_toMessage {row : LogRow} (readable : row.isReadable = true) :
    ∃ message, row.toMessage = .ok message := by
  obtain ⟨timestamp, covered⟩ := Option.isSome_iff_exists.mp readable
  unfold LogRow.toMessage
  rw [covered]
  exact ⟨_, rfl⟩

theorem LogRow.id_of_toMessage {row : LogRow} {message : StoredMessage}
    (read : row.toMessage = .ok message) : message.id = row.id.getD "" := by
  unfold LogRow.toMessage at read
  split at read
  · cases read
  · cases read
    rfl

theorem LogRow.id_eq_some {row : LogRow} {message : StoredMessage}
    (read : row.toMessage = .ok message) (given : message.id ≠ "") : row.id = some message.id := by
  have same := LogRow.id_of_toMessage read
  cases stored : row.id with
  | none =>
      rw [stored] at same
      exact absurd same given
  | some id =>
      rw [stored] at same
      rw [same, Option.getD_some]

theorem exists_row_of_mem {rows : List LogRow} {messages : List StoredMessage}
    (read : messagesOf rows = .ok messages) {message : StoredMessage} (member : message ∈ messages) :
    ∃ row ∈ rows, row.toMessage = .ok message := by
  rw [messagesOf_eq_ok_iff] at read
  induction read with
  | nil => cases member
  | cons head tail ih =>
      rcases List.mem_cons.mp member with rfl | member
      · exact ⟨_, List.mem_cons_self, head⟩
      · obtain ⟨row, found, readable⟩ := ih member
        exact ⟨row, List.mem_cons_of_mem _ found, readable⟩

theorem exists_message_of_mem {rows : List LogRow} {messages : List StoredMessage}
    (read : messagesOf rows = .ok messages) {row : LogRow} (member : row ∈ rows) :
    ∃ message ∈ messages, row.toMessage = .ok message := by
  rw [messagesOf_eq_ok_iff] at read
  induction read with
  | nil => cases member
  | cons head tail ih =>
      rcases List.mem_cons.mp member with rfl | member
      · exact ⟨_, List.mem_cons_self, head⟩
      · obtain ⟨message, found, readable⟩ := ih member
        exact ⟨message, List.mem_cons_of_mem _ found, readable⟩

theorem exists_messagesOf {rows : List LogRow} (readable : ∀ row ∈ rows, row.isReadable = true) :
    ∃ messages, messagesOf rows = .ok messages := by
  induction rows with
  | nil => exact ⟨[], rfl⟩
  | cons row rest ih =>
      obtain ⟨message, head⟩ := LogRow.exists_toMessage (readable row List.mem_cons_self)
      obtain ⟨messages, tail⟩ := ih fun other member => readable other (List.mem_cons_of_mem _ member)
      refine ⟨message :: messages, ?_⟩
      rw [messagesOf_eq_ok_iff] at *
      exact .cons head tail

/-- The row is the one of the message, under some number. -/
def LogRow.Holds (row : LogRow) (message : StoredMessage) : Prop :=
  ∃ rowId, row = .ofEntry (.ofMessage message) rowId message.timestamp.toMillis

namespace MessageLog

/-- The row that a message would get. -/
def rowFor (log : MessageLog) (message : StoredMessage) : LogRow :=
  .ofEntry (.ofMessage message) log.nextRowId message.timestamp.toMillis

theorem holds_rowFor (log : MessageLog) (message : StoredMessage) :
    (log.rowFor message).Holds message := ⟨_, rfl⟩

/-- A message whose id is taken is refused; any other gets its row at the end of the log. -/
theorem insertMessage_cases (log : MessageLog) (message : StoredMessage) :
    (log.hasId message.id = true ∧ ∃ failure, log.insertMessage message = .error failure) ∨
      (log.hasId message.id = false ∧ ∃ changed, log.insertMessage message = .ok changed ∧
        changed.rows = log.rows ++ [log.rowFor message]) := by
  unfold insertMessage insert
  split
  · rename_i untimed
    cases untimed
  · rename_i ts timed
    cases timed
    split
    · rename_i taken
      exact Or.inl ⟨taken, _, rfl⟩
    · rename_i fresh
      exact Or.inr ⟨Bool.eq_false_iff.mpr fresh, _, rfl, rfl⟩

theorem rows_of_insertMessage {log changed : MessageLog} {message : StoredMessage}
    (stored : log.insertMessage message = .ok changed) :
    log.hasId message.id = false ∧ changed.rows = log.rows ++ [log.rowFor message] := by
  rcases log.insertMessage_cases message with ⟨-, failure, refused⟩ | ⟨fresh, next, added, rows⟩
  · rw [refused] at stored
    cases stored
  · rw [added] at stored
    cases stored
    exact ⟨fresh, rows⟩

theorem hasId_eq_true_iff (log : MessageLog) (id : String) :
    log.hasId id = true ↔ ∃ row ∈ log.rows, row.id = some id := by
  simp only [hasId, List.any_eq_true, beq_iff_eq]

/-- An id stands for one row. -/
theorem eq_of_id_eq (log : MessageLog) {row other : LogRow} {id : String} (member : row ∈ log.rows)
    (present : other ∈ log.rows) (given : row.id = some id) (same : other.id = some id) :
    row = other := by
  have apart : log.rows.Pairwise fun left right =>
      left.id = some id → right.id = some id → left = right := by
    refine log.keyed.imp ?_
    intro earlier later different left right
    refine absurd (left.trans right.symm) (different ?_)
    rw [left]
    exact Option.some_ne_none _
  have mirrored : log.rows.Pairwise (flip fun left right =>
      left.id = some id → right.id = some id → left = right) :=
    apart.imp fun equal left right => (equal right left).symm
  exact apart.forall_of_forall_of_flip (fun _ _ _ _ => rfl) mirrored member present given same

/-- The rows that a scan returns have different ids. -/
theorem rowsAfter_keyed (log : MessageLog) (after : Position) (limit : Nat) :
    (log.rowsAfter after limit).Pairwise fun earlier later =>
      earlier.id ≠ none → earlier.id ≠ later.id := by
  have keyed : log.ordered.Pairwise fun earlier later =>
      earlier.id ≠ none → earlier.id ≠ later.id := by
    refine (log.ordered_perm.pairwise_iff ?_).mpr log.keyed
    intro earlier later different given same
    refine different ?_ same.symm
    rw [← same]
    exact given
  exact (keyed.filter _).sublist (List.take_sublist _ _)

/-- The rows that a log has beyond those of an earlier one. -/
def arrivals (before after : MessageLog) : List LogRow := after.rows.drop before.count

theorem arrivals_of_append {before after : MessageLog} {row : LogRow}
    (rows : after.rows = before.rows ++ [row]) : before.arrivals after = [row] := by
  unfold arrivals count
  rw [rows, List.drop_left]

theorem arrivals_self (log : MessageLog) : log.arrivals log = [] := by
  unfold arrivals count
  rw [List.drop_length]

end MessageLog

namespace Database

/-- A message that is stored changes the log and nothing else. -/
theorem insertMessage_eq_ok {database changed : Database} {message : StoredMessage}
    (stored : database.insertMessage message = .ok changed) :
    ∃ log, database.tables.log.insertMessage message = .ok log ∧
      changed = database.withLog log := by
  unfold insertMessage insert at stored
  obtain ⟨-, -, stored⟩ := bind_eq_ok.mp stored
  obtain ⟨log, added, stored⟩ := bind_eq_ok.mp stored
  cases stored
  exact ⟨log, added, rfl⟩

/-- On a store that can be written to, only a message whose id is taken is refused. -/
theorem exists_insertMessage {database : Database} {message : StoredMessage}
    (writable : database.writable = .ok ())
    (fresh : database.tables.log.hasId message.id = false) :
    ∃ log, database.insertMessage message = .ok (database.withLog log) ∧
      log.rows = database.tables.log.rows ++ [database.tables.log.rowFor message] := by
  rcases database.tables.log.insertMessage_cases message with ⟨taken, -⟩ | ⟨-, log, added, rows⟩
  · rw [fresh] at taken
    cases taken
  · refine ⟨log, ?_, rows⟩
    unfold insertMessage insert
    rw [writable]
    change (database.tables.log.insertMessage message >>= _) = _
    rw [added]
    rfl

/-- A forward scan returns the rows behind its cursor and the position that it reached. -/
theorem tailNext_eq_ok {database : Database} {after : Position} {limit : Int} {batch : TailBatch}
    (found : database.tailNext after limit = .ok batch) :
    0 < limit ∧
      messagesOf (database.tables.log.rowsAfter after limit.toNat) = .ok batch.messages ∧
      batch.last = database.tables.log.reached after limit.toNat := by
  unfold tailNext at found
  obtain ⟨_, positive, found⟩ := bind_eq_ok.mp found
  obtain ⟨-, -, found⟩ := bind_eq_ok.mp found
  obtain ⟨-, -, found⟩ := bind_eq_ok.mp found
  obtain ⟨messages, read, found⟩ := bind_eq_ok.mp found
  cases found
  refine ⟨?_, read, rfl⟩
  unfold checkBatchLimit at positive
  split at positive
  · cases positive
  · omega

/-- A scan moves on just when it returns something, and never goes back. -/
theorem tailNext_advances {database : Database} {after : Position} {limit : Int}
    {batch : TailBatch} (found : database.tailNext after limit = .ok batch) :
    ¬ batch.last.before after = true ∧ (batch.last = after ↔ batch.messages = []) := by
  obtain ⟨-, read, last⟩ := tailNext_eq_ok found
  rw [last, eq_nil_iff_of_messagesOf read]
  refine ⟨MessageLog.not_reached_before _ _ _, ?_, MessageLog.reached_of_eq_nil _ _ _⟩
  intro same
  by_contra found
  have ahead := MessageLog.before_reached _ _ _ found
  rw [same] at ahead
  exact Position.before_irrefl _ ahead

theorem tailHead_eq_ok {database : Database} {position : Position}
    (sought : database.tailHead = .ok position) : position = database.tables.log.tailHead := by
  unfold tailHead at sought
  obtain ⟨-, -, sought⟩ := bind_eq_ok.mp sought
  obtain ⟨-, -, sought⟩ := bind_eq_ok.mp sought
  cases sought
  rfl

/-- Nothing is behind the position at which the end of the log was found. -/
theorem not_before_of_tailHead {database : Database} {position : Position}
    (sought : database.tailHead = .ok position) :
    ∀ row ∈ database.tables.log.rows, ¬ position.before row.position = true := by
  rw [tailHead_eq_ok sought]
  exact fun row member => database.tables.log.not_tailHead_before member

/-- The store answers: it is open, and it names the columns of its results as usual. -/
def Answers (database : Database) : Prop :=
  database.isClosed = false ∧ database.connection.fullNames = false

theorem Answers.ready {database : Database} (answers : database.Answers) :
    database.ready = .ok () := by
  unfold Database.ready
  rw [answers.1]
  rfl

theorem Answers.checkColumn {database : Database} (answers : database.Answers)
    {α : Type} (column : String) (rows : List α) :
    database.connection.checkColumn column rows = .ok () := by
  unfold Connection.checkColumn
  rw [answers.2]
  rfl

/-- A forward scan succeeds on a store that answers and has readable rows only. -/
theorem exists_tailNext {database : Database} (answers : database.Answers)
    (readable : ∀ row ∈ database.tables.log.rows, row.isReadable = true) (after : Position)
    {limit : Int} (positive : 0 < limit) : ∃ batch, database.tailNext after limit = .ok batch := by
  have accepted : checkBatchLimit limit = .ok () := if_neg (by omega)
  obtain ⟨messages, read⟩ := exists_messagesOf fun row member =>
    readable row (database.tables.log.mem_of_mem_rowsAfter after limit.toNat member).1
  refine ⟨⟨messages, database.tables.log.reached after limit.toNat⟩, ?_⟩
  unfold tailNext TailBatch.ofRows
  rw [accepted, answers.ready]
  change (database.connection.checkColumn "ts" _ >>= _) = _
  rw [answers.checkColumn]
  change (messagesOf _ >>= _) = _
  rw [read]
  rfl

end Database

/-- An open store in which nothing is kept yet. -/
def vacant : Database := ⟨"chat.db", false, .initial 5000 0, false, .empty⟩

/-- A message of a second, with its id for a text. -/
def spoken (id : String) (second : Int) : StoredMessage :=
  { StoredMessage.new id ⟨second, 0⟩ with text := id }

end Store

end LiveChat
