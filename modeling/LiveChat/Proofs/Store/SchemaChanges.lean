import LiveChat.Store.Schema
import Mathlib.Data.List.Basic

/-!
# What changes do to a schema

A change that is carried out finds its table, its index or its column, or makes it
(`Schema.createTable_eq_ok`, `Schema.createIndex_eq_ok`, `Schema.addColumn_eq_ok`). No change takes
anything away, whether it succeeds or not (`Schema.keeps_changeAll`). Under free names, everything is
made (`Schema.changeAll_of_free`).
-/

namespace LiveChat.Store.Schema

open LiveChat.Text

variable {schema changed : Schema}

section Outcomes

variable {table : Table} {name owner column : String} {columns : List String}

theorem createTable_eq_ok (done : schema.createTable table = .ok changed) :
    ((schema.table? table.name).isSome = true ∧ changed = schema) ∨
      (schema.table? table.name = none ∧
        changed = { schema with tables := schema.tables ++ [table] }) := by
  unfold createTable at done
  split at done
  · rename_i found here
    cases done
    exact .inl ⟨by rw [here]; rfl, rfl⟩
  · rename_i absent
    split at done
    · cases done
    · cases done
      exact .inr ⟨absent, rfl⟩

theorem createIndex_eq_ok (done : schema.createIndex name owner columns = .ok changed) :
    (schema.hasIndex name = true ∧ changed = schema) ∨
      changed = { schema with indexes := schema.indexes ++ [name] } := by
  unfold createIndex at done
  split at done
  · cases done
  · split at done
    · cases done
    · split at done
      · rename_i here
        cases done
        exact .inl ⟨here, rfl⟩
      · split at done
        · cases done
        · cases done
          exact .inr rfl

theorem addColumn_eq_ok (done : schema.addColumn owner column = .ok changed) :
    ∃ found, schema.table? owner = some found ∧
      ((column ∈ found.columns ∧ changed = schema) ∨
        changed =
          { schema with
            tables := schema.tables.map fun other =>
              if sameIgnoringCase owner other.name then
                { other with columns := other.columns ++ [column] }
              else other }) := by
  unfold addColumn at done
  split at done
  · cases done
  · rename_i found here
    refine ⟨found, here, ?_⟩
    split at done
    · rename_i listed
      cases done
      exact .inl ⟨List.contains_iff_mem.mp listed, rfl⟩
    · split at done
      · cases done
      · cases done
        exact .inr rfl

end Outcomes

/-- Everything that a schema holds is in another one: each table under its name with at least its
columns, and each index. -/
structure Keeps (before after : Schema) : Prop where
  tables : ∀ table ∈ before.tables,
    ∃ kept ∈ after.tables, kept.name = table.name ∧ table.columns <+: kept.columns
  indexes : before.indexes <+: after.indexes

theorem Keeps.refl (schema : Schema) : schema.Keeps schema where
  tables table member := ⟨table, member, rfl, List.prefix_rfl⟩
  indexes := List.prefix_rfl

theorem Keeps.trans {first second third : Schema} (early : first.Keeps second)
    (late : second.Keeps third) : first.Keeps third where
  tables table member := by
    obtain ⟨kept, keptMember, keptName, keptColumns⟩ := early.tables table member
    obtain ⟨last, lastMember, lastName, lastColumns⟩ := late.tables kept keptMember
    exact ⟨last, lastMember, lastName.trans keptName, keptColumns.trans lastColumns⟩
  indexes := early.indexes.trans late.indexes

theorem keeps_createTable {table : Table} (done : schema.createTable table = .ok changed) :
    schema.Keeps changed := by
  obtain ⟨-, rfl⟩ | ⟨-, rfl⟩ := createTable_eq_ok done
  · exact .refl _
  · exact
      { tables := fun table member =>
          ⟨table, List.mem_append_left _ member, rfl, List.prefix_rfl⟩
        indexes := List.prefix_rfl }

theorem keeps_createIndex {name owner : String} {columns : List String}
    (done : schema.createIndex name owner columns = .ok changed) : schema.Keeps changed := by
  obtain ⟨-, rfl⟩ | rfl := createIndex_eq_ok done
  · exact .refl _
  · exact
      { tables := (Keeps.refl schema).tables
        indexes := List.prefix_append _ _ }

theorem keeps_addColumn {owner column : String}
    (done : schema.addColumn owner column = .ok changed) : schema.Keeps changed := by
  obtain ⟨found, -, ⟨-, rfl⟩ | rfl⟩ := addColumn_eq_ok done
  · exact .refl _
  · refine { tables := fun table member => ⟨_, List.mem_map_of_mem member, ?_⟩
             indexes := List.prefix_rfl }
    split
    · exact ⟨rfl, List.prefix_append _ _⟩
    · exact ⟨rfl, List.prefix_rfl⟩

theorem keeps_change {change : SchemaChange} (done : schema.change change = .ok changed) :
    schema.Keeps changed := by
  cases change with
  | createTable table => exact keeps_createTable done
  | createIndex name owner columns => exact keeps_createIndex done
  | addColumn owner column => exact keeps_addColumn done

/-- Changes take nothing away, however far they come. -/
theorem keeps_changeAll (changes : List SchemaChange) (schema : Schema) :
    schema.Keeps (changeAll changes schema).2 := by
  induction changes generalizing schema with
  | nil => exact .refl schema
  | cons change rest ih =>
      rw [changeAll]
      split
      · rename_i changed done
        exact (keeps_change done).trans (ih changed)
      · exact .refl schema

theorem changeAll_append {first : List SchemaChange}
    (done : changeAll first schema = (.ok (), changed)) (second : List SchemaChange) :
    changeAll (first ++ second) schema = changeAll second changed := by
  induction first generalizing schema with
  | nil =>
      cases done
      rfl
  | cons change rest ih =>
      rw [changeAll] at done
      rw [List.cons_append, changeAll]
      split at done
      · exact ih done
      · cases done

/-- The changes that make a table and an index on it. -/
def creation (table : Table) (index : String) (columns : List String) : List SchemaChange :=
  [.createTable table, .createIndex index table.name columns]

/-- Nothing has a name, in any case of letters. -/
def IsFree (schema : Schema) (name : String) : Prop :=
  schema.table? name = none ∧ schema.hasIndex name = false

section Free

variable {table : Table} {index : String}

theorem IsFree.append {name : String} (free : schema.IsFree name)
    (tables : sameIgnoringCase name table.name = false)
    (indexes : sameIgnoringCase name index = false) :
    (Schema.mk (schema.tables ++ [table]) (schema.indexes ++ [index])).IsFree name := by
  obtain ⟨noTable, noIndex⟩ := free
  rw [table?] at noTable
  rw [hasIndex] at noIndex
  constructor
  · simp [table?, List.find?_append, noTable, tables]
  · simp [hasIndex, noIndex, indexes]

/-- A table and an index on it are made under names that are free. -/
theorem changeAll_of_free {columns : List String}
    (own : ∀ column ∈ columns, table.hasColumn column = true)
    (apart : sameIgnoringCase index table.name = false)
    (free : schema.IsFree table.name) (freeIndex : schema.IsFree index) :
    changeAll (creation table index columns) schema =
      (.ok (), ⟨schema.tables ++ [table], schema.indexes ++ [index]⟩) := by
  have made : schema.createTable table = .ok ⟨schema.tables ++ [table], schema.indexes⟩ := by
    simp [createTable, free.1, free.2]
  have here : (Schema.mk (schema.tables ++ [table]) schema.indexes).table? table.name =
      some table := by
    have absent := free.1
    rw [table?] at absent ⊢
    simp [List.find?_append, absent, sameIgnoringCase_self]
  have unused : (Schema.mk (schema.tables ++ [table]) schema.indexes).table? index = none := by
    have absent := freeIndex.1
    rw [table?] at absent ⊢
    simp [List.find?_append, absent, apart]
  have unindexed : (Schema.mk (schema.tables ++ [table]) schema.indexes).hasIndex index = false :=
    freeIndex.2
  have complete : (columns.find? fun column => !table.hasColumn column) = none :=
    List.find?_eq_none.mpr fun column member => by simp [own column member]
  simp [creation, changeAll, change, made, createIndex, here, unused, unindexed, complete]

/-- A column is added to the one table of a name. -/
theorem addColumn_of_apart {column : String} {before after : List Table}
    (apartBefore : ∀ other ∈ before, sameIgnoringCase table.name other.name = false)
    (apartAfter : ∀ other ∈ after, sameIgnoringCase table.name other.name = false)
    (missing : table.hasColumn column = false) (indexes : List String) :
    addColumn ⟨before ++ table :: after, indexes⟩ table.name column =
      .ok ⟨before ++ { table with columns := table.columns ++ [column] } :: after, indexes⟩ := by
  have here : (Schema.mk (before ++ table :: after) indexes).table? table.name = some table := by
    have absent : before.find? (fun other => sameIgnoringCase table.name other.name) = none :=
      List.find?_eq_none.mpr fun other member => by simp [apartBefore other member]
    simp [table?, List.find?_append, absent, sameIgnoringCase_self]
  have unlisted : table.columns.contains column = false := by
    rw [Table.hasColumn, List.any_eq_false] at missing
    rw [← Bool.not_eq_true, List.contains_iff_mem]
    exact fun listed => missing column listed (sameIgnoringCase_self column)
  have kept (tables : List Table)
      (apart : ∀ other ∈ tables, sameIgnoringCase table.name other.name = false) :
      (tables.map fun other => if sameIgnoringCase table.name other.name then
        { other with columns := other.columns ++ [column] } else other) = tables := by
    refine (List.map_congr_left fun other member => ?_).trans (List.map_id _)
    rw [apart other member]
    rfl
  rw [addColumn, here]
  simp only [unlisted, missing, List.map_append, List.map_cons, kept _ apartBefore,
    kept _ apartAfter, sameIgnoringCase_self, if_true, Bool.false_eq_true, if_false]

end Free

end LiveChat.Store.Schema
