import LiveChat.Proofs.Store.Migrations

/-!
# Schemas of other programs

Other programs may have made tables, columns and indexes before. To make a table with its index
finds or makes both, if no table has the name of the index and no index that of the table
(`Schema.changeAll_creation`). So a schema can be brought up to date exactly if the names of what is
still to be made are free, and the column of badges is there in its own letters or not at all
(`Catalogue.migrate_completes`). A column in other letters is found by the store but not by the
migration, which stops at it (`Catalogue.capital_column_stops`).
-/

namespace LiveChat.Store

open LiveChat.Text

/-- A column is in a table in its own letters, or not at all. -/
def Table.Spells (table : Table) (column : String) : Prop :=
  table.hasColumn column = true → column ∈ table.columns

instance (table : Table) (column : String) : Decidable (table.Spells column) :=
  inferInstanceAs (Decidable (_ → _))

namespace Schema

variable {schema changed : Schema}

theorem table?_congr {name other : String} (same : sameIgnoringCase name other = true) :
    schema.table? name = schema.table? other := by
  rw [table?, table?, sameIgnoringCase_congr same]

theorem hasIndex_congr {name other : String} (same : sameIgnoringCase name other = true) :
    schema.hasIndex name = schema.hasIndex other := by
  rw [hasIndex, hasIndex, sameIgnoringCase_congr same]

theorem table?_createTable {table : Table} (done : schema.createTable table = .ok changed)
    (name : String) :
    changed.table? name =
      (schema.table? name).or (if sameIgnoringCase name table.name then some table else none) := by
  obtain ⟨here, rfl⟩ | ⟨-, rfl⟩ := createTable_eq_ok done
  · obtain ⟨found, here⟩ := Option.isSome_iff_exists.mp here
    split
    · rename_i same
      rw [table?_congr same, here, Option.some_or]
    · rw [Option.or_none]
  · simp only [table?, List.find?_append, List.find?_singleton]

theorem hasIndex_createTable {table : Table} (done : schema.createTable table = .ok changed)
    (name : String) : changed.hasIndex name = schema.hasIndex name := by
  obtain ⟨-, rfl⟩ | ⟨-, rfl⟩ := createTable_eq_ok done <;> rfl

theorem table?_createIndex {index owner : String} {columns : List String}
    (done : schema.createIndex index owner columns = .ok changed) (name : String) :
    changed.table? name = schema.table? name := by
  obtain ⟨-, rfl⟩ | rfl := createIndex_eq_ok done <;> rfl

theorem hasIndex_createIndex {index owner : String} {columns : List String}
    (done : schema.createIndex index owner columns = .ok changed) (name : String) :
    changed.hasIndex name = (schema.hasIndex name || sameIgnoringCase name index) := by
  obtain ⟨here, rfl⟩ | rfl := createIndex_eq_ok done
  · cases same : sameIgnoringCase name index with
    | true => rw [hasIndex_congr same, here, Bool.true_or]
    | false => rw [Bool.or_false]
  · simp [hasIndex]

/-- Whether the names of a table and an index can be used: no index has that of the table, unless
the table is there, and no table has that of the index. -/
def LeavesRoom (schema : Schema) (table index : String) : Prop :=
  (schema.table? table = none → schema.hasIndex table = false) ∧ schema.table? index = none

instance (schema : Schema) (table index : String) : Decidable (schema.LeavesRoom table index) :=
  inferInstanceAs (Decidable (_ ∧ _))

/-- A schema with a table and an index on it found or made. -/
structure Gains (before after : Schema) (table : Table) (index : String) : Prop where
  table? : ∀ name, after.table? name =
    (before.table? name).or (if sameIgnoringCase name table.name then some table else none)
  hasIndex : ∀ name, after.hasIndex name = (before.hasIndex name || sameIgnoringCase name index)

variable {table : Table} {index : String} {columns : List String}

/-- A table is found or made, unless an index has its name. -/
theorem exists_createTable (free : schema.table? table.name = none →
    schema.hasIndex table.name = false) : ∃ changed, schema.createTable table = .ok changed := by
  cases here : schema.table? table.name with
  | some found => exact ⟨schema, by rw [createTable, here]⟩
  | none =>
      refine ⟨{ schema with tables := schema.tables ++ [table] }, ?_⟩
      simp [createTable, here, free here]

/-- An index on columns of a table is found or made, unless a table has its name. -/
theorem exists_createIndex {found : Table} (here : schema.table? table.name = some found)
    (indexed : ∀ column ∈ columns, found.hasColumn column = true)
    (room : schema.table? index = none) :
    ∃ changed, schema.createIndex index table.name columns = .ok changed := by
  have complete : (columns.find? fun column => !found.hasColumn column) = none :=
    List.find?_eq_none.mpr fun column member => by simp [indexed column member]
  cases known : schema.hasIndex index <;> simp [createIndex, here, room, known, complete]

/-- To make a table with its index finds or makes both, or fails for want of a name. -/
theorem changeAll_creation (own : ∀ column ∈ columns, table.hasColumn column = true)
    (indexed : ∀ found, schema.table? table.name = some found →
      ∀ column ∈ columns, found.hasColumn column = true)
    (apart : sameIgnoringCase index table.name = false) :
    (schema.LeavesRoom table.name index ∧ ∃ changed,
      changeAll (creation table index columns) schema = (.ok (), changed) ∧
      schema.Gains changed table index) ∨
    (¬ schema.LeavesRoom table.name index ∧ ∃ failure,
      (changeAll (creation table index columns) schema).1 = .error failure) := by
  by_cases free : schema.table? table.name = none → schema.hasIndex table.name = false
  · obtain ⟨made, tableMade⟩ := exists_createTable free
    have sameIndex : made.table? index = schema.table? index := by
      rw [table?_createTable tableMade, apart]
      exact Option.or_none
    obtain ⟨found, here, whole⟩ : ∃ found, made.table? table.name = some found ∧
        ∀ column ∈ columns, found.hasColumn column = true := by
      rw [table?_createTable tableMade, sameIgnoringCase_self, if_pos rfl]
      cases known : schema.table? table.name with
      | some found => exact ⟨found, rfl, indexed found known⟩
      | none => exact ⟨table, rfl, own⟩
    by_cases room : schema.table? index = none
    · obtain ⟨changed, indexMade⟩ := exists_createIndex here whole (sameIndex.trans room)
      refine .inl ⟨⟨free, room⟩, changed, ?_, fun name => ?_, fun name => ?_⟩
      · simp only [creation, changeAll, change, tableMade, indexMade]
      · rw [table?_createIndex indexMade, table?_createTable tableMade]
      · rw [hasIndex_createIndex indexMade, hasIndex_createTable tableMade]
    · refine .inr ⟨fun leaves => room leaves.2, ?_⟩
      have taken : (made.table? index).isSome = true := by
        rw [sameIndex]
        exact Option.isSome_iff_ne_none.mpr room
      simp [creation, changeAll, change, tableMade, createIndex, here, taken]
  · refine .inr ⟨fun leaves => free leaves.1, ?_⟩
    obtain ⟨absent, taken⟩ := Classical.not_imp.mp free
    rw [Bool.not_eq_false] at taken
    simp [creation, changeAll, change, createTable, absent, taken]

section Columns

variable {owner column : String}

/-- A column is added unless the table has one under its name in other letters only. -/
theorem addColumn_cases (column : String) {found : Table}
    (here : schema.table? owner = some found) :
    (found.Spells column ∧ ∃ changed, schema.addColumn owner column = .ok changed) ∨
    (¬ found.Spells column ∧
      schema.addColumn owner column = .error (fault ("duplicate column name: " ++ column))) := by
  by_cases listed : column ∈ found.columns
  · refine .inl ⟨fun _ => listed, schema, ?_⟩
    simp [addColumn, here, listed]
  · cases other : found.hasColumn column with
    | true =>
        refine .inr ⟨fun spells => listed (spells other), ?_⟩
        simp [addColumn, here, listed, other]
    | false =>
        refine .inl ⟨fun has => ?_, ?_⟩
        · rw [other] at has
          cases has
        · simp [addColumn, here, listed, other]

theorem hasColumn_addColumn (done : schema.addColumn owner column = .ok changed) :
    ∃ table, changed.table? owner = some table ∧ table.hasColumn column = true := by
  have own (columns : List String) (member : column ∈ columns) :
      columns.any (sameIgnoringCase column) = true :=
    List.any_eq_true.mpr ⟨column, member, sameIgnoringCase_self column⟩
  obtain ⟨found, here, ⟨listed, rfl⟩ | rfl⟩ := addColumn_eq_ok done
  · exact ⟨found, here, own _ listed⟩
  · rw [table?] at here
    have named := List.find?_some here
    refine ⟨{ found with columns := found.columns ++ [column] }, ?_, own _ (by simp)⟩
    rw [table?, List.find?_map]
    have same : ((fun table : Table => sameIgnoringCase owner table.name) ∘ fun other : Table =>
        if sameIgnoringCase owner other.name then
          { other with columns := other.columns ++ [column] }
        else other) = fun table => sameIgnoringCase owner table.name := by
      funext table
      simp only [Function.comp_apply]
      split <;> rfl
    rw [same, here, Option.map_some, if_pos named]

end Columns

end Schema

namespace Catalogue

variable {before after : Catalogue} {version : Int} {table : Table} {index : String}

/-- What is left of a migration that makes a table with its index, whether or not it was recorded
before. -/
structure Settles (before after : Catalogue) (version : Int) (table : Table) (index : String) :
    Prop where
  isRecorded : ∀ other, after.isRecorded other = (before.isRecorded other || other == version)
  table? : ∀ name, after.schema.table? name = (before.schema.table? name).or
    (if !before.isRecorded version && sameIgnoringCase name table.name then some table else none)
  hasIndex : ∀ name, after.schema.hasIndex name = (before.schema.hasIndex name ||
    (!before.isRecorded version && sameIgnoringCase name index))

theorem apply_creation {columns : List String} (catalogue : Catalogue) (migration : Migration)
    (makes : migration.changes = Schema.creation table index columns)
    (own : ∀ column ∈ columns, table.hasColumn column = true)
    (indexed : ∀ found, catalogue.schema.table? table.name = some found →
      ∀ column ∈ columns, found.hasColumn column = true)
    (apart : sameIgnoringCase index table.name = false) :
    ((catalogue.isRecorded migration.version = false →
        catalogue.schema.LeavesRoom table.name index) ∧
      ∃ applied changed, catalogue.apply migration = (.ok applied, changed) ∧
        catalogue.Settles changed migration.version table index) ∨
    (¬ (catalogue.isRecorded migration.version = false →
        catalogue.schema.LeavesRoom table.name index) ∧
      ∃ failure, catalogue.apply migration = (.error failure, catalogue)) := by
  have creation := Schema.changeAll_creation own indexed apart
  rw [← makes] at creation
  cases known : catalogue.isRecorded migration.version with
  | true =>
      refine .inl ⟨nofun, _, _, apply_of_recorded known, fun other => ?_, fun name => ?_,
        fun name => ?_⟩
      · by_cases same : other = migration.version
        · rw [same, known, Bool.true_or]
        · rw [beq_eq_false_iff_ne.mpr same, Bool.or_false]
      · simp [known]
      · simp [known]
  | false =>
      rcases creation with ⟨room, schema, made, gains⟩ | ⟨clash, failure, failed⟩
      · refine .inl ⟨fun _ => room, _, _, apply_of_changed known made, isRecorded_record _ _,
          fun name => ?_, fun name => ?_⟩
        · simp only [known, Bool.not_false, Bool.true_and]
          exact gains.table? name
        · simp only [known, Bool.not_false, Bool.true_and]
          exact gains.hasIndex name
      · exact .inr ⟨fun room => clash (room rfl), failure, apply_of_failed known failed⟩

theorem Settles.table?_of_apart (settles : before.Settles after version table index) {name : String}
    (apart : sameIgnoringCase name table.name = false) :
    after.schema.table? name = before.schema.table? name := by
  rw [settles.table?, apart, Bool.and_false]
  exact Option.or_none

/-- A table with its index does not take the names of others. -/
theorem Settles.leavesRoom (settles : before.Settles after version table index)
    {other otherIndex : String} (tables : sameIgnoringCase other table.name = false)
    (crossed : sameIgnoringCase otherIndex table.name = false)
    (indexes : sameIgnoringCase other index = false) :
    after.schema.LeavesRoom other otherIndex ↔ before.schema.LeavesRoom other otherIndex := by
  simp [Schema.LeavesRoom, settles.table?, settles.hasIndex, tables, crossed, indexes]

/-- There is a table of messages behind the first two migrations. It has the column of badges in
letters of its own only if it had it before. -/
theorem messages_of_settles {catalogue first second : Catalogue}
    (firstLeft : catalogue.withRecords.Settles first createMessages.version messagesTable
      "idx_messages_ts")
    (secondLeft : first.Settles second createSessions.version sessionsTable
      "idx_sessions_service_updated")
    (history : catalogue.isRecorded 1 = true →
      (catalogue.schema.table? "messages").isSome = true) :
    ∃ found, second.schema.table? "messages" = some found ∧
      (found.Spells "badges_json" ↔ ∀ table,
        catalogue.schema.table? "messages" = some table → table.Spells "badges_json") := by
  rw [secondLeft.table?_of_apart (by decide +kernel), firstLeft.table?]
  change ∃ found, (catalogue.schema.table? "messages").or _ = _ ∧ _
  cases here : catalogue.schema.table? "messages" with
  | some found => exact ⟨found, Option.some_or, by simp⟩
  | none =>
      have fresh : catalogue.withRecords.isRecorded createMessages.version = false := by
        rw [← Bool.not_eq_true]
        intro recorded
        have present := history recorded
        rw [here] at present
        cases present
      have named : sameIgnoringCase "messages" messagesTable.name = true :=
        sameIgnoringCase_self "messages"
      have unmade : messagesTable.Spells "badges_json" := by decide +kernel
      refine ⟨messagesTable, ?_, fun _ => nofun, fun _ => unmade⟩
      rw [Option.none_or, fresh, named]
      rfl

/-- The column of badges is added to a table of messages, unless it is there in other letters. -/
theorem apply_addBadges {found : Table} (catalogue : Catalogue)
    (unrecorded : catalogue.isRecorded addBadges.version = false)
    (here : catalogue.schema.table? "messages" = some found) :
    (found.Spells "badges_json" ∧ ∃ applied changed,
      catalogue.apply addBadges = (.ok applied, changed) ∧
      (∀ other, changed.isRecorded other = (catalogue.isRecorded other || other == 3)) ∧
      ∃ table, changed.schema.table? "messages" = some table ∧
        table.hasColumn "badges_json" = true) ∨
    (¬ found.Spells "badges_json" ∧ ∃ failure,
      catalogue.apply addBadges = (.error failure, catalogue)) := by
  rcases Schema.addColumn_cases "badges_json" here with
    ⟨spells, schema, added⟩ | ⟨other, refused⟩
  · have changed : catalogue.schema.changeAll addBadges.changes = (.ok (), schema) := by
      simp only [addBadges, Schema.changeAll, Schema.change, added]
    exact .inl ⟨spells, _, _, apply_of_changed unrecorded changed, isRecorded_record _ _,
      Schema.hasColumn_addColumn added⟩
  · have failed : (catalogue.schema.changeAll addBadges.changes).1 =
        .error (Schema.fault ("duplicate column name: " ++ "badges_json")) := by
      simp only [addBadges, Schema.changeAll, Schema.change, refused]
    exact .inr ⟨other, _, apply_of_failed unrecorded failed⟩

theorem completes_of_error {failure : Failure} {ready settled : Prop} (stuck : ¬ ready) :
    ((.error failure : Result Unit) = .ok () ↔ ready) ∧
      ((.error failure : Result Unit) = .ok () → settled) := by
  refine ⟨⟨fun done => ?_, fun holds => (stuck holds).elim⟩, fun done => ?_⟩ <;> cases done

/-- **Schemas of other programs.** Suppose that the tables that are there have the columns that are
indexed, and that there is a table of messages if the records name its migration but not that of the
badges. The schema can then be brought up to date exactly if the names of the tables and indexes
that remain to be made, also that of the table of records, are free or theirs already, and the table
of messages has the column of badges in its own letters or not at all. Afterwards all versions are
recorded, and the column is there if its migration was not recorded before. -/
theorem migrate_completes (catalogue : Catalogue)
    (messages : ∀ table, catalogue.schema.table? "messages" = some table →
      table.hasColumn "ts" = true)
    (sessions : ∀ table, catalogue.schema.table? "sessions" = some table →
      table.hasColumn "service" = true ∧ table.hasColumn "updated_at" = true)
    (history : catalogue.isRecorded 1 = true → catalogue.isRecorded 3 = false →
      (catalogue.schema.table? "messages").isSome = true) :
    (catalogue.migrate.1 = .ok () ↔
      catalogue.KeepsRecords ∧
      (catalogue.isRecorded 1 = false →
        catalogue.schema.LeavesRoom "messages" "idx_messages_ts") ∧
      (catalogue.isRecorded 2 = false →
        catalogue.schema.LeavesRoom "sessions" "idx_sessions_service_updated") ∧
      (catalogue.isRecorded 3 = false → ∀ table,
        catalogue.schema.table? "messages" = some table → table.Spells "badges_json")) ∧
    (catalogue.migrate.1 = .ok () →
      (∀ version ∈ [1, 2, 3], catalogue.migrate.2.isRecorded version = true) ∧
      (catalogue.isRecorded 3 = false → ∃ table,
        catalogue.migrate.2.schema.table? "messages" = some table ∧
          table.hasColumn "badges_json" = true)) := by
  by_cases keeps : catalogue.KeepsRecords
  case neg =>
    rw [(migrate_of_not_keepsRecords keeps).2]
    exact completes_of_error fun ready => keeps ready.1
  rcases catalogue.withRecords.apply_creation createMessages rfl (by decide +kernel)
      (fun found here column member => by
        rw [List.mem_singleton.mp member]
        exact messages found here) (by decide +kernel) with
    ⟨messagesRoom, _, first, firstDone, firstLeft⟩ | ⟨clash, failure, stopped⟩
  case inr =>
    rw [migrate_eq keeps, migrations, applyAll_of_error stopped]
    exact completes_of_error fun ready => clash ready.2.1
  have firstRun : catalogue.migrate = applyAll [createSessions, addBadges] first := by
    rw [migrate_eq keeps, migrations, applyAll_of_ok firstDone]
  have sessionsApart : sameIgnoringCase "sessions" messagesTable.name = false := by decide +kernel
  have sessionsRoom : (first.isRecorded 2 = false →
        first.schema.LeavesRoom "sessions" "idx_sessions_service_updated") ↔
      (catalogue.isRecorded 2 = false →
        catalogue.schema.LeavesRoom "sessions" "idx_sessions_service_updated") := by
    rw [firstLeft.isRecorded, firstLeft.leavesRoom sessionsApart (by decide +kernel)
      (by decide +kernel)]
    simp [createMessages, isRecorded, withRecords]
  rcases first.apply_creation createSessions rfl (by decide +kernel)
      (fun found here => by
        have indexed := sessions found ((firstLeft.table?_of_apart sessionsApart).symm.trans here)
        simpa using indexed) (by decide +kernel) with
    ⟨secondRoom, _, second, secondDone, secondLeft⟩ | ⟨clash, failure, stopped⟩
  case inr =>
    rw [firstRun, applyAll_of_error stopped]
    exact completes_of_error fun ready => clash (sessionsRoom.mpr ready.2.2.1)
  have secondRun : catalogue.migrate = applyAll [addBadges] second := by
    rw [firstRun, applyAll_of_ok secondDone]
  have records (version : Int) : second.isRecorded version =
      (catalogue.isRecorded version || version == 1 || version == 2) := by
    rw [secondLeft.isRecorded, firstLeft.isRecorded]
    rfl
  cases known : catalogue.isRecorded 3 with
  | true =>
      have kept : second.isRecorded addBadges.version = true := by
        rw [records]
        simp [addBadges, known]
      rw [secondRun, applyAll_of_ok (apply_of_recorded kept), applyAll]
      refine ⟨⟨fun _ => ⟨keeps, messagesRoom, sessionsRoom.mp secondRoom,
        fun fresh => by cases fresh⟩, fun _ => rfl⟩, fun _ => ⟨?_, fun fresh => by cases fresh⟩⟩
      simp [records, known]
  | false =>
      have unrecorded : second.isRecorded addBadges.version = false := by
        rw [records]
        simp [addBadges, known]
      obtain ⟨found, here, spells⟩ := messages_of_settles firstLeft secondLeft
        (fun recorded => history recorded known)
      rcases second.apply_addBadges unrecorded here with
        ⟨spelled, _, last, done, lastRecords, column⟩ | ⟨misspelled, failure, stopped⟩
      · rw [secondRun, applyAll_of_ok done, applyAll]
        refine ⟨⟨fun _ => ⟨keeps, messagesRoom, sessionsRoom.mp secondRoom,
          fun _ => spells.mp spelled⟩, fun _ => rfl⟩, fun _ => ⟨?_, fun _ => column⟩⟩
        simp [lastRecords, records]
      · rw [secondRun, applyAll_of_error stopped]
        exact completes_of_error fun ready => misspelled (spells.mpr (ready.2.2.2 rfl))

/-- A store in which another program made tables and an index, in letters of its own. -/
def foreignStore : Catalogue :=
  ⟨some [7], ⟨[⟨"Messages", ["Id", "TS", "badges_json"]⟩, ⟨"notes", []⟩], ["IDX_Messages_ts"]⟩⟩

theorem migrate_completes_foreignStore :
    foreignStore.migrate.1 = .ok () ∧
    (∀ version ∈ [1, 2, 3], foreignStore.migrate.2.isRecorded version = true) ∧
    ∃ table, foreignStore.migrate.2.schema.table? "messages" = some table ∧
      table.hasColumn "badges_json" = true := by
  have found : foreignStore.schema.table? "messages" =
      some ⟨"Messages", ["Id", "TS", "badges_json"]⟩ := by decide +kernel
  have absent : foreignStore.schema.table? "sessions" = none := by decide +kernel
  obtain ⟨exactly, after⟩ := migrate_completes foreignStore
    (fun table here => by
      obtain rfl := Option.some.inj (found.symm.trans here)
      decide +kernel)
    (fun table here => by
      rw [absent] at here
      cases here)
    (fun recorded => absurd recorded (by decide +kernel))
  have done := exactly.mpr ⟨nofun, fun _ => by decide +kernel, fun _ => by decide +kernel,
    fun _ table here => by
      obtain rfl := Option.some.inj (found.symm.trans here)
      decide +kernel⟩
  exact ⟨done, (after done).1, (after done).2 (by decide +kernel)⟩

/-- A store in which another program made the table of messages with all its columns, one of them in
capital letters. -/
def capitalStore : Catalogue :=
  ⟨none, ⟨[⟨"messages", ["id", "ts", "username", "platform", "text", "emotes_json", "BADGES_JSON",
    "raw_json"]⟩], []⟩⟩

/-- The store takes the column for that of the badges, but the migration does not find it. -/
theorem capital_column_stops :
    (∃ table, capitalStore.schema.table? "messages" = some table ∧
      table.hasColumn "ts" = true ∧ table.hasColumn "badges_json" = true) ∧
    capitalStore.schema.table? "sessions" = none ∧
    capitalStore.recorded = none ∧
    capitalStore.migrate.1 = .error (Schema.fault "duplicate column name: badges_json") ∧
    capitalStore.migrate.2.recorded = some [1, 2] := by
  refine ⟨⟨_, rfl, ?_, ?_⟩, ?_, rfl, ?_, ?_⟩
  all_goals decide +kernel

end Catalogue

end LiveChat.Store
