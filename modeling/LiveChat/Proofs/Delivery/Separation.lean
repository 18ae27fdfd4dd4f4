import LiveChat.Proofs.Delivery.Broadcast

/-!
# Own rows and foreign rows

Behind the position of a tailer the set of noted ids tells the foreign rows from the own ones
(`Separated`). Noting the id of a row before it comes in keeps it so, and so do foreign rows with
fresh ids and the scans of the tailer.
-/

namespace LiveChat.Delivery

open LiveChat.Store

structure Separated (log : MessageLog) (position : Position) (seen : SeenIds)
    (foreign : List LogRow) : Prop where
  foreign_sublist : foreign.Sublist log.rows
  unsent : ∀ row ∈ log.rows, position.before row.position = true → row ∈ foreign →
    row.isUnsent seen = true
  noted : ∀ row ∈ log.rows, position.before row.position = true → row ∉ foreign →
    row.isNoted seen = true

namespace Separated

variable {log : MessageLog} {position : Position} {seen : SeenIds} {foreign : List LogRow}

/-- Nothing is to be told apart where nothing is behind the position. -/
theorem start (seen : SeenIds)
    (nothing : ∀ row ∈ log.rows, ¬ position.before row.position = true) :
    Separated log position seen [] where
  foreign_sublist := List.nil_sublist _
  unsent row member behind := absurd behind (nothing row member)
  noted row member behind := absurd behind (nothing row member)

theorem note (separated : Separated log position seen foreign) {id : String}
    (unused : log.hasId id = false) (kept : seen.forgets id = false) :
    Separated log position (seen.insert id).2 foreign where
  foreign_sublist := separated.foreign_sublist
  unsent row member behind outside := by
    obtain ⟨key, found, nonempty, fresh⟩ :=
      LogRow.isUnsent_iff.mp (separated.unsent row member behind outside)
    refine LogRow.isUnsent_iff.mpr ⟨key, found, nonempty, ?_⟩
    have different : key ≠ id := by
      rintro rfl
      exact Bool.eq_false_iff.mp unused ((log.hasId_eq_true_iff key).mpr ⟨row, member, found⟩)
    rw [Bool.eq_false_iff] at *
    exact fun recorded => fresh (SeenIds.contains_of_contains_insert recorded different)
  noted row member behind own := by
    obtain ⟨key, found, known⟩ := LogRow.isNoted_iff.mp (separated.noted row member behind own)
    exact LogRow.isNoted_iff.mpr ⟨key, found, SeenIds.contains_insert_of_contains kept known⟩

theorem own (separated : Separated log position seen foreign) {changed : MessageLog}
    {row : LogRow} (rows : changed.rows = log.rows ++ [row]) (noted : row.isNoted seen = true) :
    Separated changed position seen foreign where
  foreign_sublist := by
    rw [rows]
    exact separated.foreign_sublist.trans (List.sublist_append_left _ _)
  unsent other _ behind outside :=
    separated.unsent other (separated.foreign_sublist.subset outside) behind outside
  noted other member behind own := by
    rw [rows] at member
    rcases List.mem_append.mp member with old | new
    · exact separated.noted other old behind own
    · cases List.mem_singleton.mp new
      exact noted

theorem arrive (separated : Separated log position seen foreign) {changed : MessageLog}
    {row : LogRow} (rows : changed.rows = log.rows ++ [row]) (unsent : row.isUnsent seen = true) :
    Separated changed position seen (foreign ++ [row]) where
  foreign_sublist := by
    rw [rows]
    exact separated.foreign_sublist.append (List.Sublist.refl _)
  unsent other _ behind outside := by
    rcases List.mem_append.mp outside with old | new
    · exact separated.unsent other (separated.foreign_sublist.subset old) behind old
    · cases List.mem_singleton.mp new
      exact unsent
  noted other member behind own := by
    rw [rows] at member
    rw [List.mem_append, not_or] at own
    rcases List.mem_append.mp member with old | new
    · exact separated.noted other old behind own.1
    · exact absurd new own.2

theorem separates (separated : Separated log position seen foreign) (limit : Nat) :
    seen.Separates (fun row => decide (row ∈ foreign)) (log.rowsAfter position limit) where
  keyed := log.rowsAfter_keyed position limit
  unsent row member outside := by
    obtain ⟨present, behind⟩ := log.mem_of_mem_rowsAfter position limit member
    exact separated.unsent row present behind (of_decide_eq_true outside)
  noted row member own := by
    obtain ⟨present, behind⟩ := log.mem_of_mem_rowsAfter position limit member
    exact separated.noted row present behind (of_decide_eq_false own)

theorem scan {relay : Relay} (separated : Separated log position relay.seen foreign) {limit : Nat}
    {messages : List StoredMessage} (read : messagesOf (log.rowsAfter position limit) = .ok messages)
    (kept : relay.remembers messages = true ∨
      ∀ row ∈ log.rows, position.before row.position = true → row ∈ foreign) :
    Separated log (log.reached position limit) (relay.publishRows messages).2.seen foreign where
  foreign_sublist := separated.foreign_sublist
  unsent row member beyond outside := by
    have behind := Position.before_of_not_before (log.not_reached_before position limit) beyond
    obtain ⟨key, found, nonempty, fresh⟩ :=
      LogRow.isUnsent_iff.mp (separated.unsent row member behind outside)
    refine LogRow.isUnsent_iff.mpr ⟨key, found, nonempty, ?_⟩
    rw [Bool.eq_false_iff] at *
    intro sent
    rcases Relay.contains_of_publishRows sent with known | ⟨-, message, listed, rfl⟩
    · exact fresh known
    · obtain ⟨other, scanned, readable⟩ := exists_row_of_mem read listed
      have same : other = row := by
        refine log.eq_of_id_eq (log.mem_of_mem_rowsAfter position limit scanned).1 member ?_ found
        exact LogRow.id_eq_some readable nonempty
      rw [same] at scanned
      exact ((log.mem_rowsAfter_iff position limit).mp scanned).2.2 beyond
  noted row member beyond own := by
    have behind := Position.before_of_not_before (log.not_reached_before position limit) beyond
    rcases kept with remembered | all
    · obtain ⟨key, found, known⟩ := LogRow.isNoted_iff.mp (separated.noted row member behind own)
      exact LogRow.isNoted_iff.mpr ⟨key, found, Relay.contains_publishRows remembered known⟩
    · exact absurd (all row member behind) own

end Separated

end LiveChat.Delivery
