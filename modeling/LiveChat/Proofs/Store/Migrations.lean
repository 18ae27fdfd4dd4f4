import LiveChat.Proofs.Store.SchemaChanges

/-!
# Migrations are ordered, atomic and idempotent

Applying a migration finds it recorded, carries it out as a whole or leaves everything as it was
(`Catalogue.apply_cases`). So migrations are carried out in their order up to the first that fails,
and each of them is recorded (`Catalogue.advances_applyAll`), unless an index has taken the name of
the table of records (`Catalogue.migrate_of_not_keepsRecords`). Bringing a schema up to date once
more, after a success or a failure, ends in the same way and changes nothing
(`Catalogue.migrate_outcome`). Where all names are free, the migrations make two tables with an index
on each (`Catalogue.changeAll_migrations`).
-/

namespace LiveChat.Store.Catalogue

open LiveChat.Text

section Apply

variable {catalogue : Catalogue} {migration : Migration}

theorem apply_of_recorded (known : catalogue.isRecorded migration.version = true) :
    catalogue.apply migration = (.ok false, catalogue) := by
  simp [apply, attempt, known]

theorem apply_of_changed {schema : Schema}
    (unrecorded : catalogue.isRecorded migration.version = false)
    (changed : catalogue.schema.changeAll migration.changes = (.ok (), schema)) :
    catalogue.apply migration =
      (.ok true, { catalogue with schema := schema }.record migration.version) := by
  simp [apply, attempt, unrecorded, changed]

/-- What the changes before the failure did is rolled back. -/
theorem apply_of_failed {failure : Failure}
    (unrecorded : catalogue.isRecorded migration.version = false)
    (failed : (catalogue.schema.changeAll migration.changes).1 = .error failure) :
    catalogue.apply migration = (.error failure, catalogue) := by
  rcases changed : catalogue.schema.changeAll migration.changes with ⟨outcome, schema⟩
  rw [changed] at failed
  obtain rfl : outcome = .error failure := failed
  simp [apply, attempt, unrecorded, changed]

/-- Whether a migration is recorded, what its changes come to, and what applying it does. -/
theorem apply_cases (catalogue : Catalogue) (migration : Migration) :
    (catalogue.isRecorded migration.version = true ∧
      catalogue.apply migration = (.ok false, catalogue)) ∨
    (catalogue.isRecorded migration.version = false ∧ ∃ schema,
      catalogue.schema.changeAll migration.changes = (.ok (), schema) ∧
      catalogue.apply migration =
        (.ok true, { catalogue with schema := schema }.record migration.version)) ∨
    (catalogue.isRecorded migration.version = false ∧ ∃ failure,
      (catalogue.schema.changeAll migration.changes).1 = .error failure ∧
      catalogue.apply migration = (.error failure, catalogue)) := by
  cases known : catalogue.isRecorded migration.version with
  | true => exact .inl ⟨rfl, apply_of_recorded known⟩
  | false =>
      rcases changed : catalogue.schema.changeAll migration.changes with ⟨failure | done, schema⟩
      · exact .inr (.inr ⟨rfl, failure, rfl, apply_of_failed known (congrArg Prod.fst changed)⟩)
      · exact .inr (.inl ⟨rfl, schema, rfl, apply_of_changed known changed⟩)

theorem applyAll_of_ok {changed : Catalogue} {applied : Bool}
    (done : catalogue.apply migration = (.ok applied, changed)) (rest : List Migration) :
    applyAll (migration :: rest) catalogue = applyAll rest changed := by
  rw [applyAll, done]

theorem applyAll_of_error {changed : Catalogue} {failure : Failure}
    (stopped : catalogue.apply migration = (.error failure, changed)) (rest : List Migration) :
    applyAll (migration :: rest) catalogue = (.error failure, changed) := by
  rw [applyAll, stopped]

end Apply

theorem isRecorded_record (catalogue : Catalogue) (version other : Int) :
    (catalogue.record version).isRecorded other =
      (catalogue.isRecorded other || other == version) := by
  rw [Bool.eq_iff_iff]
  simp [isRecorded, record]

theorem sorted_migrations : migrations.Pairwise (·.version < ·.version) := by decide

theorem sorted_pending (catalogue : Catalogue) :
    catalogue.pending.Pairwise (·.version < ·.version) := sorted_migrations.filter _

/-- How far a list of migrations comes: some of them are carried out and recorded in their order,
and those that remain are none, or begin with one that fails and leaves no trace. -/
structure Advances (before : Catalogue) (applied remaining : List Migration)
    (result : Result Unit) (after : Catalogue) : Prop where
  recorded : after.recorded = some (before.recorded.getD [] ++ applied.map Migration.version)
  schema : before.schema.changeAll (applied.flatMap Migration.changes) = (.ok (), after.schema)
  result :
    match remaining with
    | [] => result = .ok ()
    | stopped :: _ => ∃ failure, result = .error failure ∧
        (after.schema.changeAll stopped.changes).1 = .error failure

/-- The list of pending migrations is a short cut, since each migration is looked up again. -/
theorem applyAll_filter {todo : List Migration} (sorted : todo.Pairwise (·.version < ·.version))
    (catalogue : Catalogue) :
    applyAll (todo.filter fun migration => !catalogue.isRecorded migration.version) catalogue =
      applyAll todo catalogue := by
  induction todo generalizing catalogue with
  | nil => rfl
  | cons migration rest ih =>
      obtain ⟨later, sorted⟩ := List.pairwise_cons.mp sorted
      rcases catalogue.apply_cases migration with
        ⟨known, done⟩ | ⟨unrecorded, schema, -, done⟩ | ⟨unrecorded, failure, -, done⟩
      · rw [List.filter_cons_of_neg (by simp [known]), ih sorted, applyAll_of_ok done]
      · rw [List.filter_cons_of_pos (by simp [unrecorded]), applyAll_of_ok done,
          applyAll_of_ok done]
        refine Eq.trans ?_ (ih sorted _)
        refine congrArg (applyAll · _) (List.filter_congr fun other member => ?_)
        have larger := later other member
        rw [isRecorded_record, beq_eq_false_iff_ne.mpr (by omega), Bool.or_false]
        rfl
      · rw [List.filter_cons_of_pos (by simp [unrecorded]), applyAll_of_error done,
          applyAll_of_error done]

/-- There is a table of records, or no index has its name. -/
def KeepsRecords (catalogue : Catalogue) : Prop :=
  catalogue.recorded = none → catalogue.schema.hasIndex recordsName = false

instance (catalogue : Catalogue) : Decidable catalogue.KeepsRecords :=
  inferInstanceAs (Decidable (_ → _))

theorem keepRecords_of_keepsRecords {catalogue : Catalogue} (keeps : catalogue.KeepsRecords) :
    catalogue.keepRecords = .ok catalogue.withRecords := by
  rw [keepRecords, if_neg]
  rw [Bool.and_eq_true, Option.isNone_iff_eq_none]
  rintro ⟨unrecorded, taken⟩
  rw [keeps unrecorded] at taken
  cases taken

/-- Where the name of the table of records is taken, nothing is done. -/
theorem migrate_of_not_keepsRecords {catalogue : Catalogue} (clash : ¬ catalogue.KeepsRecords) :
    catalogue.recorded = none ∧
      catalogue.migrate = (.error (Schema.indexNamed recordsName), catalogue) := by
  obtain ⟨unrecorded, taken⟩ := Classical.not_imp.mp clash
  have refused : catalogue.keepRecords = .error (Schema.indexNamed recordsName) := by
    rw [keepRecords, if_pos]
    rw [Bool.and_eq_true, Option.isNone_iff_eq_none]
    exact ⟨unrecorded, (Bool.not_eq_false _).mp taken⟩
  exact ⟨unrecorded, by rw [migrate, refused]⟩

theorem migrate_eq_pending {catalogue : Catalogue} (keeps : catalogue.KeepsRecords) :
    catalogue.migrate = applyAll catalogue.pending catalogue.withRecords := by
  rw [migrate, keepRecords_of_keepsRecords keeps]
  rfl

theorem migrate_eq {catalogue : Catalogue} (keeps : catalogue.KeepsRecords) :
    catalogue.migrate = applyAll migrations catalogue.withRecords :=
  (migrate_eq_pending keeps).trans (applyAll_filter sorted_migrations catalogue.withRecords)

variable {before after : Catalogue} {applied remaining todo : List Migration}
  {result : Result Unit}

theorem Advances.isRecorded (advances : before.Advances applied remaining result after)
    (version : Int) :
    after.isRecorded version =
      (before.isRecorded version || (applied.map Migration.version).contains version) := by
  rw [Catalogue.isRecorded, advances.recorded, Option.getD_some, Catalogue.isRecorded,
    List.contains_eq_any_beq, List.contains_eq_any_beq, List.contains_eq_any_beq, List.any_append]

/-- Migrations that are not recorded are carried out up to the first that fails. -/
theorem advances_applyAll (sorted : todo.Pairwise (·.version < ·.version))
    (fresh : ∀ migration ∈ todo, before.isRecorded migration.version = false)
    (records : before.recorded.isSome = true) :
    ∃ applied remaining, todo = applied ++ remaining ∧
      before.Advances applied remaining (applyAll todo before).1 (applyAll todo before).2 := by
  obtain ⟨versions, kept⟩ := Option.isSome_iff_exists.mp records
  induction todo generalizing before versions with
  | nil =>
      refine ⟨[], [], rfl, ?_, rfl, rfl⟩
      rw [applyAll, kept]
      simp
  | cons migration rest ih =>
      obtain ⟨later, sorted⟩ := List.pairwise_cons.mp sorted
      have unrecorded := fresh migration List.mem_cons_self
      rcases before.apply_cases migration with
        ⟨known, -⟩ | ⟨-, schema, changed, done⟩ | ⟨-, failure, failed, done⟩
      · rw [unrecorded] at known
        cases known
      · -- the versions of the others are larger, so that they are still not recorded
        have stillFresh : ∀ other ∈ rest,
            ({ before with schema := schema }.record migration.version).isRecorded other.version =
              false := by
          intro other member
          rw [isRecorded_record, Bool.or_eq_false_iff]
          have larger := later other member
          exact ⟨fresh other (List.mem_cons_of_mem _ member), beq_eq_false_iff_ne.mpr (by omega)⟩
        obtain ⟨applied, remaining, rfl, advances⟩ := ih sorted stillFresh rfl _ rfl
        refine ⟨migration :: applied, remaining, rfl, ?_⟩
        rw [applyAll_of_ok done]
        refine ⟨?_, ?_, advances.result⟩
        · rw [advances.recorded]
          simp [record]
        · rw [List.flatMap_cons, Schema.changeAll_append changed]
          exact advances.schema
      · refine ⟨[], migration :: rest, rfl, ?_⟩
        rw [applyAll_of_error done]
        exact ⟨by simp [kept], rfl, failure, rfl, failed⟩

/-- The migrations that remain stop at once, and in the same way. -/
theorem Advances.applyAll_remaining (advances : before.Advances applied remaining result after)
    (fresh : ∀ migration ∈ remaining, after.isRecorded migration.version = false) :
    applyAll remaining after = (result, after) := by
  have ending := advances.result
  cases remaining with
  | nil => rw [applyAll, ending]
  | cons stopped rest =>
      obtain ⟨failure, rfl, failed⟩ := ending
      rw [applyAll_of_error (apply_of_failed (fresh stopped List.mem_cons_self) failed)]

/-- What is pending after some migrations are what remains of them. -/
theorem Advances.pending (advances : before.Advances applied remaining result after)
    (split : before.pending = applied ++ remaining) : after.pending = remaining := by
  have sorted : (applied ++ remaining).Pairwise (·.version < ·.version) :=
    split ▸ before.sorted_pending
  obtain ⟨-, -, apart⟩ := List.pairwise_append.mp sorted
  have both : after.pending = before.pending.filter fun migration =>
      !(applied.map Migration.version).contains migration.version := by
    unfold Catalogue.pending
    rw [List.filter_filter]
    refine List.filter_congr fun migration _ => ?_
    rw [advances.isRecorded, Bool.not_or, Bool.and_comm]
  rw [both, split, List.filter_append]
  have gone : (applied.filter fun migration =>
      !(applied.map Migration.version).contains migration.version) = [] := by
    refine List.filter_eq_nil_iff.mpr fun migration member => ?_
    simpa using ⟨migration, member, rfl⟩
  have left : (remaining.filter fun migration =>
      !(applied.map Migration.version).contains migration.version) = remaining := by
    refine List.filter_eq_self.mpr fun migration member => ?_
    simp only [Bool.not_eq_true', List.contains_eq_mem, decide_eq_false_iff_not, List.mem_map,
      not_exists, not_and]
    intro other earlier same
    have smaller := apart other earlier migration member
    omega
  rw [gone, left, List.nil_append]

/-- Of migrations in their order, those in front of one of them are the smaller ones. -/
theorem filter_version_lt {stopped : Migration} {rest : List Migration}
    (sorted : (applied ++ stopped :: rest).Pairwise (·.version < ·.version)) :
    (applied ++ stopped :: rest).filter (·.version < stopped.version) = applied := by
  obtain ⟨-, later, apart⟩ := List.pairwise_append.mp sorted
  have smaller : applied.filter (·.version < stopped.version) = applied :=
    List.filter_eq_self.mpr fun migration member =>
      decide_eq_true (apart migration member stopped List.mem_cons_self)
  have larger : (stopped :: rest).filter (·.version < stopped.version) = [] := by
    refine List.filter_eq_nil_iff.mpr fun migration member below => ?_
    have below := of_decide_eq_true below
    rcases List.mem_cons.mp member with rfl | member
    · exact Int.lt_irrefl _ below
    · exact Int.lt_asymm below ((List.pairwise_cons.mp later).1 migration member)
  rw [List.filter_append, smaller, larger, List.append_nil]

theorem isRecorded_of_mem_pending {catalogue : Catalogue} :
    ∀ migration ∈ catalogue.pending, catalogue.isRecorded migration.version = false :=
  fun _ member => (Bool.not_eq_true' _).mp (List.mem_filter.mp member).2

/-- Where records are kept, the pending migrations are carried out up to the first that fails. -/
theorem exists_advances (keeps : before.KeepsRecords) :
    ∃ applied remaining, before.pending = applied ++ remaining ∧
      before.withRecords.Advances applied remaining before.migrate.1 before.migrate.2 := by
  rw [migrate_eq_pending keeps]
  have unrecorded : ∀ migration ∈ before.pending,
      before.withRecords.isRecorded migration.version = false := isRecorded_of_mem_pending
  exact advances_applyAll before.sorted_pending unrecorded rfl

/-- What remains is all that is pending, and is stopped in the same way once more. -/
theorem Advances.migrate_again
    (advances : before.withRecords.Advances applied remaining result after)
    (split : before.pending = applied ++ remaining) : after.migrate = (result, after) := by
  have left : after.pending = remaining := advances.pending split
  have again : after.KeepsRecords := by
    rw [KeepsRecords, advances.recorded]
    nofun
  have records : after.withRecords = after := by
    rw [withRecords, advances.recorded, Option.getD_some, ← advances.recorded]
  rw [migrate_eq_pending again, records, left]
  exact advances.applyAll_remaining (left ▸ isRecorded_of_mem_pending)

/-- **Migrations.** From any recorded versions and any schema, the pending migrations are carried
out in their order, all of them or those below the one that fails. Their versions are added to the
records, and the schema is what their changes make of it: nothing of the one that fails is left, and
nothing that was there is lost. If no records can be kept, the first migration fails before it has
begun. To bring the outcome up to date again ends in the same way, with the same failure if there was
one, and changes nothing. -/
theorem migrate_outcome (before : Catalogue) :
    ∃ applied : List Migration,
      (before.KeepsRecords ∧
          before.migrate.2.recorded =
            some (before.recorded.getD [] ++ applied.map Migration.version) ∨
        ¬ before.KeepsRecords ∧ applied = [] ∧
          before.migrate = (.error (Schema.indexNamed recordsName), before)) ∧
      before.schema.changeAll (applied.flatMap Migration.changes) =
        (.ok (), before.migrate.2.schema) ∧
      (match before.migrate.1 with
        | .ok () => applied = before.pending
        | .error failure => ∃ stopped ∈ before.pending,
            (before.KeepsRecords →
              (before.migrate.2.schema.changeAll stopped.changes).1 = .error failure) ∧
            applied = before.pending.filter (·.version < stopped.version)) ∧
      before.schema.Keeps before.migrate.2.schema ∧
      before.migrate.2.migrate = before.migrate := by
  by_cases keeps : before.KeepsRecords
  case neg =>
    obtain ⟨unrecorded, same⟩ := migrate_of_not_keepsRecords keeps
    have all : before.pending = migrations := by
      simp [Catalogue.pending, Catalogue.isRecorded, unrecorded]
    rw [same, all]
    exact ⟨[], .inr ⟨keeps, rfl, rfl⟩, rfl,
      ⟨createMessages, List.mem_cons_self, fun holds => (keeps holds).elim, rfl⟩, .refl _, same⟩
  obtain ⟨applied, remaining, split, advances⟩ := exists_advances keeps
  have sorted := before.sorted_pending
  refine ⟨applied, .inl ⟨keeps, advances.recorded⟩, advances.schema, ?_, ?_,
    advances.migrate_again split⟩
  · have ending := advances.result
    rw [split] at sorted ⊢
    cases remaining with
    | nil =>
        rw [ending, List.append_nil]
    | cons stopped rest =>
        obtain ⟨failure, failed, same⟩ := ending
        rw [failed]
        exact ⟨stopped, List.mem_append_right _ List.mem_cons_self, fun _ => same,
          (filter_version_lt sorted).symm⟩
  · have kept := Schema.keeps_changeAll (applied.flatMap Migration.changes) before.schema
    rw [show before.schema.changeAll _ = _ from advances.schema] at kept
    exact kept

example : migrations.map Migration.version = [1, 2, 3] := rfl

/-- **What the migrations make** of a schema in which their names are free: two tables and an index
on each of them. -/
theorem changeAll_migrations {schema : Schema}
    (free : ∀ name ∈ ["messages", "idx_messages_ts", "sessions", "idx_sessions_service_updated"],
      schema.IsFree name) :
    schema.changeAll (migrations.flatMap Migration.changes) =
      (.ok (),
        { tables := schema.tables ++
            [⟨"messages", ["id", "ts", "username", "platform", "text", "emotes_json", "raw_json",
              "badges_json"]⟩,
             ⟨"sessions", ["token", "service", "data_json", "token_expiry", "updated_at"]⟩]
          indexes := schema.indexes ++ ["idx_messages_ts", "idx_sessions_service_updated"] }) := by
  obtain ⟨messages, messagesIndex, sessions, sessionsIndex, -⟩ :
      schema.IsFree "messages" ∧ schema.IsFree "idx_messages_ts" ∧ schema.IsFree "sessions" ∧
        schema.IsFree "idx_sessions_service_updated" ∧ True := by
    simpa using free
  have first : schema.changeAll createMessages.changes =
      (.ok (), ⟨schema.tables ++ [messagesTable], schema.indexes ++ ["idx_messages_ts"]⟩) :=
    Schema.changeAll_of_free (by decide +kernel) (by decide +kernel) messages messagesIndex
  have second : Schema.changeAll createSessions.changes
      ⟨schema.tables ++ [messagesTable], schema.indexes ++ ["idx_messages_ts"]⟩ =
      (.ok (), ⟨schema.tables ++ [messagesTable] ++ [sessionsTable],
        schema.indexes ++ ["idx_messages_ts"] ++ ["idx_sessions_service_updated"]⟩) :=
    Schema.changeAll_of_free (by decide +kernel) (by decide +kernel)
      (sessions.append (by decide +kernel) (by decide +kernel))
      (sessionsIndex.append (by decide +kernel) (by decide +kernel))
  have apart : ∀ other ∈ schema.tables, sameIgnoringCase "messages" other.name = false := by
    simpa [Schema.table?] using messages.1
  have added : Schema.addColumn ⟨schema.tables ++ ([messagesTable] ++ [sessionsTable]),
      schema.indexes ++ ["idx_messages_ts"] ++ ["idx_sessions_service_updated"]⟩
      "messages" "badges_json" = _ :=
    Schema.addColumn_of_apart apart (by decide +kernel) (by decide +kernel) _
  have changes : migrations.flatMap Migration.changes =
      createMessages.changes ++ (createSessions.changes ++ addBadges.changes) := rfl
  rw [changes, Schema.changeAll_append first, Schema.changeAll_append second, List.append_assoc]
  simp only [addBadges, Schema.changeAll, Schema.change, added]
  rw [List.append_assoc]
  rfl

example : Catalogue.empty.migrate =
    (.ok (),
      { recorded := some [1, 2, 3]
        schema :=
          { tables :=
              [⟨"messages", ["id", "ts", "username", "platform", "text", "emotes_json", "raw_json",
                "badges_json"]⟩, sessionsTable]
            indexes := ["idx_messages_ts", "idx_sessions_service_updated"] } }) := by
  decide +kernel

end LiveChat.Store.Catalogue
