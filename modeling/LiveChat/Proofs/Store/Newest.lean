import LiveChat.Proofs.Store.Queries

/-!
# The newest rows

The newest rows of a log are its last ones in the order of positions, which are those that fewer
than so many rows are behind of (`MessageLog.mem_latest_iff`). A query for them returns their
messages, the newest first (`Database.recent_latest_eq_ok`).
-/

namespace LiveChat.Store

namespace MessageLog

variable (log : MessageLog) (limit : Nat)

/-- The last rows in the order of positions. -/
def latest : List LogRow := log.ordered.drop (log.count - limit)

/-- Fewer than so many rows are behind the row. -/
def IsNewest (row : LogRow) : Prop :=
  row ∈ log.rows ∧ (log.rows.countP fun other => row.position.before other.position) < limit

theorem length_ordered : log.ordered.length = log.count := log.ordered_perm.length_eq

theorem latest_pairwise :
    (log.latest limit).Pairwise fun left right => left.position.before right.position = true :=
  log.ordered_pairwise.sublist (List.drop_sublist _ _)

theorem mem_rows_of_mem_latest {row : LogRow} (member : row ∈ log.latest limit) :
    row ∈ log.rows :=
  log.mem_ordered.mp (List.mem_of_mem_drop member)

theorem newestRows_latest (positive : 0 < limit) :
    log.newestRows (.latest limit) = (log.latest limit).reverse := by
  have admitted : log.ordered.reverse.filter (RecentQuery.latest limit).admits =
      log.ordered.reverse := List.filter_eq_self.mpr fun _ _ => rfl
  unfold newestRows upTo latest
  rw [admitted, ← log.length_ordered]
  change (if limit = 0 then _ else log.ordered.reverse.take limit) = _
  rw [if_neg (Nat.pos_iff_ne_zero.mp positive), List.take_reverse]

/-- The rows behind a row, counted in two parts of the ordered log. -/
theorem countP_behind (row : LogRow) :
    (log.rows.countP fun other => row.position.before other.position) =
      ((log.ordered.take (log.count - limit)).countP fun other =>
        row.position.before other.position) +
      ((log.latest limit).countP fun other => row.position.before other.position) := by
  rw [← List.countP_append]
  unfold latest
  rw [List.take_append_drop]
  exact (log.ordered_perm.countP_eq _).symm

theorem mem_latest_iff {row : LogRow} : row ∈ log.latest limit ↔ log.IsNewest limit row := by
  have split : (log.ordered.take (log.count - limit) ++ log.latest limit).Pairwise
      fun left right => left.position.before right.position = true := by
    unfold latest
    rw [List.take_append_drop]
    exact log.ordered_pairwise
  obtain ⟨-, sorted, apart⟩ := List.pairwise_append.mp split
  have length : (log.latest limit).length = log.count - (log.count - limit) := by
    unfold latest
    rw [List.length_drop, length_ordered]
  unfold IsNewest
  rw [countP_behind log limit]
  constructor
  · intro member
    refine ⟨log.mem_rows_of_mem_latest limit member, ?_⟩
    have older : (log.ordered.take (log.count - limit)).countP
        (fun other => row.position.before other.position) = 0 := by
      rw [List.countP_eq_zero]
      intro other earlier
      exact Position.not_before_of_before (apart other earlier row member)
    have newer : (log.latest limit).countP (fun other => row.position.before other.position) <
        (log.latest limit).length := by
      refine Nat.lt_of_le_of_ne List.countP_le_length ?_
      intro all
      exact Position.before_irrefl _ (List.countP_eq_length.mp all row member)
    omega
  · rintro ⟨member, few⟩
    rw [← log.mem_ordered, ← List.take_append_drop (log.count - limit) log.ordered] at member
    rcases List.mem_append.mp member with older | newer
    · have all : (log.latest limit).countP (fun other => row.position.before other.position) =
          (log.latest limit).length :=
        List.countP_eq_length.mpr fun other later => apart row older other later
      have short := List.length_pos_of_mem older
      rw [List.length_take] at short
      omega
    · exact newer

theorem isNewest_or_behind {row : LogRow} (member : row ∈ log.rows) :
    log.IsNewest limit row ∨
      limit ≤ log.rows.countP fun other => row.position.before other.position := by
  by_cases few : (log.rows.countP fun other => row.position.before other.position) < limit
  · exact Or.inl ⟨member, few⟩
  · exact Or.inr (Nat.le_of_not_lt few)

end MessageLog

namespace Database

/-- The newest messages come the newest first. -/
theorem recent_latest_eq_ok {database : Database} {limit : Nat} (positive : 0 < limit)
    {messages : List StoredMessage} (found : database.recent (.latest limit) = .ok messages) :
    messagesOf (database.tables.log.latest limit) = .ok messages.reverse := by
  unfold recent at found
  obtain ⟨-, -, found⟩ := bind_eq_ok.mp found
  obtain ⟨-, -, found⟩ := bind_eq_ok.mp found
  obtain ⟨-, -, found⟩ := bind_eq_ok.mp found
  rw [MessageLog.newestRows_latest _ _ positive, messagesOf_eq_ok_iff] at found
  rw [messagesOf_eq_ok_iff, ← List.forall₂_reverse_iff, List.reverse_reverse]
  exact found

theorem exists_recent_latest {database : Database} (answers : database.Answers)
    (readable : ∀ row ∈ database.tables.log.rows, row.isReadable = true) {limit : Nat}
    (positive : 0 < limit) : ∃ messages, database.recent (.latest limit) = .ok messages := by
  have accepted : (RecentQuery.latest limit).check = .ok () := by
    unfold RecentQuery.check RecentQuery.latest
    rw [if_neg (by simp), if_neg (by simp)]
  have newest : ∀ row ∈ database.tables.log.newestRows (.latest limit), row.isReadable = true := by
    rw [MessageLog.newestRows_latest _ _ positive]
    intro row member
    exact readable row (database.tables.log.mem_rows_of_mem_latest limit (List.mem_reverse.mp member))
  obtain ⟨messages, read⟩ := exists_messagesOf newest
  refine ⟨messages, ?_⟩
  unfold recent
  rw [accepted, answers.ready]
  change (database.connection.checkColumn "ts" _ >>= _) = _
  rw [answers.checkColumn]
  exact read

end Database

end LiveChat.Store
