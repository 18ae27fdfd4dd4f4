import LiveChat.Proofs.Store.Queries
import Mathlib.Data.List.Induction
import Mathlib.Data.List.Nodup

/-!
# The most recent session

Sessions are upserted, deleted and purged, one call after the other. On file are those whose last
upsert was not followed by an end (`standing`), and the table holds a row for each of them, the
numbers of the rows in the order in which the sessions were created (`SessionTable.Keeps`). A query
for the latest session compares times first and numbers second, and an upsert of a session on file
changes its time and not its number. So the query finds the last upsert just if no session that was
upserted within the same millisecond was created behind it (`Database.latest_is_last_filed_iff`).
-/

namespace LiveChat.Store

open LiveChat.Config LiveChat.Time

/-- What is filed about a session and when, in milliseconds. -/
structure SessionFiling where
  token : String
  service : String
  dataJson : String
  expiry : Option Int
  time : Int
deriving DecidableEq, Repr

def SessionRow.filing (row : SessionRow) : SessionFiling :=
  ⟨row.token, row.service, row.dataJson, row.expiry, row.updatedAt⟩

theorem exists_timeOfMillis {millis : Int}
    (covered : (Timestamp.ofMillis? millis).isSome = true) :
    ∃ time, timeOfMillis millis = .ok time := by
  obtain ⟨time, found⟩ := Option.isSome_iff_exists.mp covered
  refine ⟨time, ?_⟩
  rw [timeOfMillis, found]

namespace SessionFiling

def rowAt (filing : SessionFiling) (number : Nat) : SessionRow :=
  ⟨number, filing.token, filing.service, filing.dataJson, filing.expiry, filing.time⟩

/-- The session as it is read back. The number of its row does not show. -/
def session (filing : SessionFiling) : Result Session := (filing.rowAt 0).toSession

/-- The clock covers the times of the filing. -/
def isCovered (filing : SessionFiling) : Bool :=
  (Timestamp.ofMillis? filing.time).isSome &&
    filing.expiry.all fun expiry => (Timestamp.ofMillis? expiry).isSome

theorem exists_session {filing : SessionFiling} (covered : filing.isCovered = true) :
    ∃ session, filing.session = .ok session := by
  obtain ⟨time, expiry⟩ := Bool.and_eq_true_iff.mp covered
  obtain ⟨updatedAt, changed⟩ := exists_timeOfMillis time
  unfold session rowAt SessionRow.toSession
  cases limit : filing.expiry with
  | none =>
      rw [changed]
      exact ⟨_, rfl⟩
  | some millis =>
      rw [limit, Option.all_some] at expiry
      obtain ⟨expires, found⟩ := exists_timeOfMillis expiry
      rw [Option.mapM_some, found, changed]
      exact ⟨_, rfl⟩

theorem token_of_session {filing : SessionFiling} {session : Session}
    (read : filing.session = .ok session) : session.token = filing.token := by
  obtain ⟨_, -, read⟩ := bind_eq_ok.mp read
  obtain ⟨_, -, read⟩ := bind_eq_ok.mp read
  cases read
  rfl

end SessionFiling

/-- A call that changes the sessions. -/
inductive SessionCall where
  | upsert (filing : SessionFiling)
  | delete (token : String)
  | purge (now : Int)
deriving DecidableEq, Repr

namespace SessionCall

/-- What the call files. Without a token nothing is filed. -/
def filed? : SessionCall → Option SessionFiling
  | .upsert filing => if filing.token = "" then none else some filing
  | _ => none

/-- The call replaces or removes the session of the filing. -/
def ends (call : SessionCall) (filing : SessionFiling) : Bool :=
  match call with
  | .upsert _ => call.filed?.any fun other => other.token == filing.token
  | .delete token => filing.token == token
  | .purge now => filing.expiry.any (· ≤ now)

end SessionCall

/-- The filings that no later call ends, in the order of the calls. -/
def standing : List SessionCall → List SessionFiling
  | [] => []
  | call :: later =>
      (call.filed?.filter fun filing => !later.any fun next => next.ends filing).toList ++
        standing later

/-- The filings that stand after a further call. -/
def SessionCall.leaves (call : SessionCall) (filings : List SessionFiling) : List SessionFiling :=
  (filings.filter fun filing => !call.ends filing) ++ call.filed?.toList

theorem standing_concat (calls : List SessionCall) (call : SessionCall) :
    standing (calls ++ [call]) = call.leaves (standing calls) := by
  induction calls with
  | nil => cases filed : call.filed? <;> simp [standing, SessionCall.leaves, filed]
  | cons first later ih =>
      rw [List.cons_append, standing, standing, ih, SessionCall.leaves, SessionCall.leaves,
        List.filter_append, List.append_assoc]
      congr 1
      cases first.filed? with
      | none => rfl
      | some filing =>
          rw [Option.filter_some, Option.filter_some, List.any_append, List.any_cons, List.any_nil,
            Bool.or_false, Bool.not_or]
          cases later.any fun next => next.ends filing with
          | true => rfl
          | false =>
              cases final : call.ends filing <;> simp [final]

theorem standing_sublist (calls : List SessionCall) :
    (standing calls).Sublist (calls.filterMap SessionCall.filed?) := by
  induction calls with
  | nil => exact .slnil
  | cons call later ih =>
      rw [standing]
      cases filed : call.filed? with
      | none =>
          rw [List.filterMap_cons_none filed]
          exact ih
      | some filing =>
          rw [List.filterMap_cons_some filed, Option.filter_some]
          cases later.any fun next => next.ends filing with
          | true => exact ih.cons filing
          | false => exact ih.cons_cons filing

/-- The last of the filings as a session, if there is one. -/
def lastFiled (filings : List SessionFiling) : Result (Option Session) :=
  filings.getLast?.mapM SessionFiling.session

theorem exists_lastFiled {filings : List SessionFiling}
    (covered : ∀ filing ∈ filings, filing.isCovered = true) :
    ∃ answer, lastFiled filings = .ok answer := by
  unfold lastFiled
  cases final : filings.getLast? with
  | none => exact ⟨none, rfl⟩
  | some filing =>
      obtain ⟨session, read⟩ :=
        SessionFiling.exists_session (covered filing (List.mem_of_getLast? final))
      rw [Option.mapM_some, read]
      exact ⟨some session, rfl⟩

/-! ## The rows -/

namespace SessionTable

def filings (table : SessionTable) : List SessionFiling := table.rows.map SessionRow.filing

/-- The row number under which a token is on file; zero stands for none. -/
def numberOf (table : SessionTable) (token : String) : Nat :=
  ((table.find? token).map SessionRow.rowId).getD 0

/-- The table after a call. -/
def change (table : SessionTable) : SessionCall → SessionTable
  | .upsert filing =>
      (table.upsert filing.token filing.service filing.dataJson filing.expiry filing.time).2
  | .delete token => table.delete token
  | .purge now => (table.purgeExpired now).2

/-- The table has a row for each filing and no other. A token is filed once, and a row that was
created later has a greater number. -/
structure Keeps (table : SessionTable) (filings : List SessionFiling) : Prop where
  perm : table.filings.Perm filings
  distinct : (filings.map SessionFiling.token).Nodup
  numbered : table.rows.Pairwise fun earlier later => earlier.rowId < later.rowId

theorem rowId_lt_nextRowId (table : SessionTable) {row : SessionRow} (member : row ∈ table.rows) :
    row.rowId < table.nextRowId :=
  Nat.lt_succ_of_le ((MessageLog.le_foldl_max _ 0).2 _ (List.mem_map_of_mem member))

theorem find?_eq_none_iff (table : SessionTable) (token : String) :
    table.find? token = none ↔ ∀ filing ∈ table.filings, filing.token ≠ token := by
  unfold find? filings
  rw [List.find?_eq_none, List.forall_mem_map]
  refine forall₂_congr fun row _ => ?_
  rw [beq_iff_eq]
  rfl

theorem filter_of_absent {filings : List SessionFiling} {token : String}
    (absent : ∀ other ∈ filings, other.token ≠ token) :
    (filings.filter fun other => !(token == other.token)) = filings := by
  refine List.filter_eq_self.mpr fun other member => ?_
  rw [Bool.not_eq_true', beq_eq_false_iff_ne]
  exact (absent other member).symm

/-- A filing that replaces another in its place might as well have come in its stead at the end. -/
theorem perm_replace {filings : List SessionFiling}
    (distinct : (filings.map SessionFiling.token).Nodup) {filing : SessionFiling}
    (known : ∃ other ∈ filings, other.token = filing.token) :
    (filings.map fun other => if other.token = filing.token then filing else other).Perm
      ((filings.filter fun other => !(filing.token == other.token)) ++ [filing]) := by
  induction filings with
  | nil =>
      obtain ⟨other, impossible, -⟩ := known
      cases impossible
  | cons first rest ih =>
      obtain ⟨apart, distinct⟩ := List.nodup_cons.mp distinct
      by_cases same : first.token = filing.token
      · have others : ∀ other ∈ rest, other.token ≠ filing.token := by
          intro other member equal
          refine apart (List.mem_map.mpr ⟨other, member, ?_⟩)
          rw [equal, same]
        have replaced : (rest.map fun other =>
            if other.token = filing.token then filing else other) = rest := by
          refine (List.map_congr_left fun other member => ?_).trans (List.map_id rest)
          exact if_neg (others other member)
        rw [List.map_cons, if_pos same, replaced, List.filter_cons_of_neg (by simp [same]),
          filter_of_absent others]
        exact (List.perm_append_singleton filing rest).symm
      · have elsewhere : ∃ other ∈ rest, other.token = filing.token := by
          obtain ⟨other, member, equal⟩ := known
          rcases List.mem_cons.mp member with rfl | member
          · exact absurd equal same
          · exact ⟨other, member, equal⟩
        rw [List.map_cons, if_neg same, List.filter_cons_of_pos (by simpa using Ne.symm same)]
        exact (ih distinct elsewhere).cons first

def file (table : SessionTable) (filing : SessionFiling) : SessionTable :=
  table.put filing.token filing.service filing.dataJson filing.expiry filing.time

theorem rows_file_of_known {table : SessionTable} {filing : SessionFiling} {found : SessionRow}
    (known : table.find? filing.token = some found) :
    (table.file filing).rows = table.rows.map fun row =>
      if row.token = filing.token then filing.rowAt row.rowId else row := by
  unfold file put
  rw [known]
  refine List.map_congr_left fun row _ => ?_
  by_cases same : row.token = filing.token
  · rw [if_pos same, if_pos same, SessionFiling.rowAt, ← same]
  · rw [if_neg same, if_neg same]

theorem rows_file_of_new {table : SessionTable} {filing : SessionFiling}
    (new : table.find? filing.token = none) :
    (table.file filing).rows = table.rows ++ [filing.rowAt table.nextRowId] := by
  unfold file put
  rw [new]
  rfl

theorem filings_file (table : SessionTable) {filing : SessionFiling}
    (distinct : (table.filings.map SessionFiling.token).Nodup) :
    (table.file filing).filings.Perm
      ((table.filings.filter fun other => !(filing.token == other.token)) ++ [filing]) := by
  cases found : table.find? filing.token with
  | none =>
      rw [filter_of_absent ((table.find?_eq_none_iff filing.token).mp found), filings,
        rows_file_of_new found, List.map_append]
      exact .refl _
  | some row =>
      have known : ∃ other ∈ table.filings, other.token = filing.token := by
        by_contra unknown
        push Not at unknown
        rw [(table.find?_eq_none_iff filing.token).mpr unknown] at found
        cases found
      have replaced : (table.file filing).filings = table.filings.map fun other =>
          if other.token = filing.token then filing else other := by
        rw [filings, filings, rows_file_of_known found, List.map_map, List.map_map]
        exact List.map_congr_left fun row _ => apply_ite SessionRow.filing _ _ _
      rw [replaced]
      exact perm_replace distinct known

theorem numbered_file (table : SessionTable) (filing : SessionFiling)
    (numbered : table.rows.Pairwise fun earlier later => earlier.rowId < later.rowId) :
    (table.file filing).rows.Pairwise fun earlier later => earlier.rowId < later.rowId := by
  cases found : table.find? filing.token with
  | none =>
      rw [rows_file_of_new found]
      refine List.pairwise_append.mpr ⟨numbered, List.pairwise_singleton _ _, ?_⟩
      intro row member new only
      rw [List.mem_singleton.mp only]
      exact table.rowId_lt_nextRowId member
  | some row =>
      have number (row : SessionRow) :
          (if row.token = filing.token then filing.rowAt row.rowId else row).rowId = row.rowId := by
        split <;> rfl
      rw [rows_file_of_known found, List.pairwise_map]
      simp only [number]
      exact numbered

namespace Keeps

variable {table : SessionTable} {filings : List SessionFiling}

theorem empty : SessionTable.empty.Keeps [] := ⟨.nil, .nil, .nil⟩

theorem tokens_nodup (keeps : table.Keeps filings) :
    (table.filings.map SessionFiling.token).Nodup :=
  (keeps.perm.map _).nodup_iff.mpr keeps.distinct

/-- Rows that are taken out are taken out of the filings. -/
theorem filter (keeps : table.Keeps filings) (test : SessionFiling → Bool) :
    (SessionTable.mk (table.rows.filter (test ∘ SessionRow.filing))).Keeps
      (filings.filter test) where
  perm := by
    change (List.map SessionRow.filing _).Perm _
    rw [← List.filter_map]
    exact keeps.perm.filter test
  distinct := keeps.distinct.sublist (List.filter_sublist.map _)
  numbered := keeps.numbered.sublist List.filter_sublist

theorem file (keeps : table.Keeps filings) (filing : SessionFiling) :
    (table.file filing).Keeps
      ((filings.filter fun other => !(filing.token == other.token)) ++ [filing]) where
  perm := (table.filings_file keeps.tokens_nodup).trans ((keeps.perm.filter _).append_right _)
  distinct := by
    rw [List.map_append]
    refine (keeps.distinct.sublist (List.filter_sublist.map _)).append
      (List.nodup_singleton _) ?_
    intro token kept new
    obtain ⟨other, member, rfl⟩ := List.mem_map.mp kept
    have apart := (List.mem_filter.mp member).2
    rw [List.mem_singleton.mp new] at apart
    simp at apart
  numbered := table.numbered_file filing keeps.numbered

/-- One call. -/
theorem change (keeps : table.Keeps filings) (call : SessionCall) :
    (table.change call).Keeps (call.leaves filings) := by
  cases call with
  | upsert filing =>
      by_cases unnamed : filing.token = ""
      · have nothing : (SessionCall.upsert filing).filed? = none := if_pos unnamed
        have kept : (SessionCall.upsert filing).leaves filings = filings := by
          unfold SessionCall.leaves SessionCall.ends
          rw [nothing]
          exact (List.append_nil _).trans (List.filter_eq_self.mpr fun _ _ => rfl)
        have refused : checkToken filing.token = .error _ := if_pos unnamed
        rw [SessionTable.change, upsert, refused, kept]
        exact keeps
      · have files : (SessionCall.upsert filing).filed? = some filing := if_neg unnamed
        have named : checkToken filing.token = .ok () := if_neg unnamed
        rw [SessionTable.change, upsert, named]
        unfold SessionCall.leaves SessionCall.ends
        rw [files]
        exact keeps.file filing
  | delete token =>
      change (table.delete token).Keeps (_ ++ [])
      rw [List.append_nil]
      exact keeps.filter fun filing => filing.token != token
  | purge now =>
      change (table.purgeExpired now).2.Keeps (_ ++ [])
      rw [List.append_nil]
      exact keeps.filter fun filing => !filing.expiry.any (· ≤ now)

/-- A run of calls. -/
theorem run (calls : List SessionCall) :
    (calls.foldl SessionTable.change .empty).Keeps (standing calls) := by
  induction calls using List.reverseRecOn with
  | nil => exact empty
  | append_singleton calls call ih =>
      rw [List.foldl_concat, standing_concat]
      exact ih.change call

theorem eq_of_token_eq (keeps : table.Keeps filings) {filing other : SessionFiling}
    (member : filing ∈ filings) (present : other ∈ filings) (same : filing.token = other.token) :
    filing = other :=
  List.inj_on_of_nodup_map keeps.distinct member present same

theorem eq_of_rowId_eq (keeps : table.Keeps filings) {row other : SessionRow}
    (member : row ∈ table.rows) (present : other ∈ table.rows) (same : row.rowId = other.rowId) :
    row = other := by
  have numbers : (table.rows.map SessionRow.rowId).Nodup :=
    List.pairwise_map.mpr (keeps.numbered.imp Nat.ne_of_lt)
  exact List.inj_on_of_nodup_map numbers member present same

theorem rows_eq_nil_iff (keeps : table.Keeps filings) : table.rows = [] ↔ filings = [] := by
  rw [← List.length_eq_zero_iff, ← List.length_eq_zero_iff, ← keeps.perm.length_eq,
    SessionTable.filings, List.length_map]

theorem exists_row (keeps : table.Keeps filings) {filing : SessionFiling}
    (member : filing ∈ filings) : ∃ row ∈ table.rows, row.filing = filing :=
  List.mem_map.mp (keeps.perm.mem_iff.mpr member)

theorem filing_mem (keeps : table.Keeps filings) {row : SessionRow} (member : row ∈ table.rows) :
    row.filing ∈ filings :=
  keeps.perm.mem_iff.mp (List.mem_map_of_mem member)

theorem numberOf_eq (keeps : table.Keeps filings) {row : SessionRow} (member : row ∈ table.rows) :
    table.numberOf row.token = row.rowId := by
  have distinct : (table.rows.map SessionRow.token).Nodup := by
    have tokens := keeps.tokens_nodup
    rw [SessionTable.filings, List.map_map] at tokens
    exact tokens
  cases found : table.find? row.token with
  | none =>
      have missing := (table.find?_eq_none_iff row.token).mp found
      exact absurd rfl (missing row.filing (List.mem_map_of_mem member))
  | some other =>
      have same : other.token = row.token := by
        have matched := List.find?_some found
        exact beq_iff_eq.mp matched
      have equal : other = row :=
        List.inj_on_of_nodup_map distinct (List.mem_of_find?_eq_some found) member same
      rw [numberOf, found, equal]
      rfl

end Keeps

/-! ## The latest row -/

theorem isLater_iff (row other : SessionRow) :
    row.isLater other = true ↔
      other.updatedAt < row.updatedAt ∨
        (other.updatedAt = row.updatedAt ∧ other.rowId < row.rowId) := by
  simp only [SessionRow.isLater, Bool.or_eq_true, Bool.and_eq_true, decide_eq_true_eq, beq_iff_eq]

theorem latestRow?_eq_none_iff {rows : List SessionRow} : latestRow? rows = none ↔ rows = [] := by
  cases rows with
  | nil => exact iff_of_true rfl rfl
  | cons row rest =>
      refine iff_of_false ?_ (List.cons_ne_nil _ _)
      unfold latestRow?
      split
      · split <;> exact Option.some_ne_none _
      · exact Option.some_ne_none _

/-- The latest row is one of the rows, and no other is later. -/
theorem latestRow?_spec {rows : List SessionRow} {latest : SessionRow}
    (found : latestRow? rows = some latest) :
    latest ∈ rows ∧ ∀ row ∈ rows, ¬ row.isLater latest = true := by
  induction rows generalizing latest with
  | nil => cases found
  | cons first rest ih =>
      unfold latestRow? at found
      split at found
      · rename_i other newest
        obtain ⟨member, ahead⟩ := ih newest
        split at found
        · rename_i later
          cases found
          refine ⟨List.mem_cons_of_mem _ member, List.forall_mem_cons.mpr ⟨?_, ahead⟩⟩
          rw [isLater_iff] at later ⊢
          omega
        · rename_i earlier
          cases found
          refine ⟨List.mem_cons_self, List.forall_mem_cons.mpr ⟨?_, fun row within => ?_⟩⟩
          · rw [isLater_iff]
            omega
          · have behind := ahead row within
            rw [isLater_iff] at earlier behind ⊢
            omega
      · rename_i nothing
        cases found
        rw [latestRow?_eq_none_iff.mp nothing]
        refine ⟨List.mem_cons_self, List.forall_mem_singleton.mpr ?_⟩
        rw [isLater_iff]
        omega

/-- No filing of the same millisecond as the last one has a greater row number than it. -/
def Singles (table : SessionTable) (filings : List SessionFiling) : Prop :=
  ∀ last ∈ filings.getLast?, ∀ other ∈ filings, other.time = last.time →
    table.numberOf other.token ≤ table.numberOf last.token

instance (table : SessionTable) (filings : List SessionFiling) :
    Decidable (table.Singles filings) :=
  inferInstanceAs (Decidable (∀ last ∈ filings.getLast?, ∀ other ∈ filings, _ → _))

theorem eq_last_or {related : SessionFiling → SessionFiling → Prop} {filings : List SessionFiling}
    (pairwise : filings.Pairwise related) {last : SessionFiling}
    (final : filings.getLast? = some last) :
    ∀ filing ∈ filings, filing = last ∨ related filing last := by
  obtain ⟨others, rfl⟩ := List.getLast?_eq_some_iff.mp final
  obtain ⟨-, -, towards⟩ := List.pairwise_append.mp pairwise
  intro filing member
  rcases List.mem_append.mp member with earlier | same
  · exact Or.inr (towards filing earlier last List.mem_cons_self)
  · exact Or.inl (List.mem_singleton.mp same)

/-- Filings of different milliseconds are told apart by their times. -/
theorem singles_of_ascending (table : SessionTable) {filings : List SessionFiling}
    (ascending : filings.Pairwise fun earlier later => earlier.time < later.time) :
    table.Singles filings := by
  intro last final other member same
  rcases eq_last_or ascending final other member with rfl | earlier
  · exact Nat.le_refl _
  · exact absurd same (Int.ne_of_lt earlier)

theorem time_le_last {filings : List SessionFiling} {last : SessionFiling}
    (chronological : filings.Pairwise fun earlier later => earlier.time ≤ later.time)
    (final : filings.getLast? = some last) : ∀ filing ∈ filings, filing.time ≤ last.time := by
  intro filing member
  rcases eq_last_or chronological final filing member with rfl | earlier
  · exact Int.le_refl _
  · exact earlier

namespace Keeps

variable {table part : SessionTable} {filings chosen : List SessionFiling}

/-- What is read back tells one filing from the others. -/
theorem read_eq_iff (keeps : table.Keeps filings)
    (covered : ∀ filing ∈ filings, filing.isCovered = true) {filing other : SessionFiling}
    (member : filing ∈ filings) (present : other ∈ filings) :
    (some filing).mapM SessionFiling.session = (some other).mapM SessionFiling.session ↔
      filing = other := by
  constructor
  · intro same
    obtain ⟨left, first⟩ := SessionFiling.exists_session (covered filing member)
    obtain ⟨right, second⟩ := SessionFiling.exists_session (covered other present)
    have equal : left = right := by
      rw [Option.mapM_some, Option.mapM_some, first, second] at same
      exact Option.some.inj (Except.ok.inj same)
    apply keeps.eq_of_token_eq member present
    rw [← SessionFiling.token_of_session first, equal, SessionFiling.token_of_session second]
  · intro same
    rw [same]

/-- The latest row of a part of a table is that of the part's last filing just if the numbers of the
whole table single it out. -/
theorem filing_eq_last_iff (whole : table.Keeps filings) (keeps : part.Keeps chosen)
    (within : ∀ row ∈ part.rows, row ∈ table.rows)
    (chronological : chosen.Pairwise fun earlier later => earlier.time ≤ later.time)
    {latest : SessionRow} (found : latestRow? part.rows = some latest) {last : SessionFiling}
    (final : chosen.getLast? = some last) :
    latest.filing = last ↔ table.Singles chosen := by
  obtain ⟨present, ahead⟩ := latestRow?_spec found
  have number {row : SessionRow} (member : row ∈ part.rows) :
      table.numberOf row.filing.token = row.rowId := whole.numberOf_eq (within row member)
  constructor
  · rintro rfl last is other stands same
    obtain rfl := Option.some.inj (final.symm.trans is)
    obtain ⟨row, member, rfl⟩ := keeps.exists_row stands
    have notLater := ahead row member
    rw [isLater_iff] at notLater
    change row.updatedAt = latest.updatedAt at same
    rw [number member, number present]
    omega
  · intro singles
    obtain ⟨row, member, rfl⟩ := keeps.exists_row (List.mem_of_getLast? final)
    have bound := time_le_last chronological final _ (keeps.filing_mem present)
    have notLater := ahead row member
    rw [isLater_iff] at notLater
    change latest.updatedAt ≤ row.updatedAt at bound
    have same : latest.updatedAt = row.updatedAt := by omega
    have below := singles _ final _ (keeps.filing_mem present) same
    rw [number present, number member] at below
    have equal : latest = row := by
      apply keeps.eq_of_rowId_eq present member
      omega
    rw [equal]

theorem latest_eq_iff (whole : table.Keeps filings) (keeps : part.Keeps chosen)
    (within : ∀ row ∈ part.rows, row ∈ table.rows)
    (chronological : chosen.Pairwise fun earlier later => earlier.time ≤ later.time)
    (covered : ∀ filing ∈ chosen, filing.isCovered = true) :
    part.latest = lastFiled chosen ↔ table.Singles chosen := by
  cases found : latestRow? part.rows with
  | none =>
      have nothing := keeps.rows_eq_nil_iff.mp (latestRow?_eq_none_iff.mp found)
      rw [nothing, SessionTable.latest, found]
      exact iff_of_true rfl fun last impossible => nomatch impossible
  | some latest =>
      have present := keeps.filing_mem (latestRow?_spec found).1
      cases final : chosen.getLast? with
      | none =>
          rw [List.getLast?_eq_none_iff.mp final] at present
          cases present
      | some last =>
          have told := keeps.read_eq_iff covered present (List.mem_of_getLast? final)
          rw [← whole.filing_eq_last_iff keeps within chronological found final, ← told,
            SessionTable.latest, lastFiled, found, final]
          exact Iff.rfl

end Keeps

end SessionTable

/-! ## The database -/

/-- The database after a call. A call that is refused makes no difference; a session that is filed and
cannot be read back stays filed. -/
def SessionCall.carryOut (database : Database) : SessionCall → Database
  | .upsert filing =>
      (database.upsertSession filing.token filing.service filing.dataJson filing.expiry
        filing.time).2
  | .delete token => (database.deleteSession token).toOption.getD database
  | .purge now => ((database.purgeSessions now).toOption.map Prod.snd).getD database

namespace Database

def runSessions (database : Database) (calls : List SessionCall) : Database :=
  calls.foldl SessionCall.carryOut database

/-- What is on file after the calls. A database that takes no changes has nothing on file. -/
def onFile (database : Database) (calls : List SessionCall) : List SessionFiling :=
  if database.writable.isOk then standing calls else []

/-- The database is open and, if there is something to tell, names its columns as usual, and no
session that was filed in the same millisecond as the last one was created behind it. -/
def TellsLast (database : Database) (filings : List SessionFiling) : Prop :=
  database.isClosed = false ∧ (filings ≠ [] → database.connection.fullNames = false) ∧
    database.tables.sessions.Singles filings

variable {database : Database}

theorem carryOut_of_writable (writable : database.writable = .ok ()) (call : SessionCall) :
    call.carryOut database = database.withSessions (database.tables.sessions.change call) := by
  cases call with
  | upsert filing =>
      rw [SessionCall.carryOut, SessionTable.change, upsertSession, SessionTable.upsert]
      cases checked : SessionTable.checkToken filing.token with
      | error failure => rfl
      | ok _ =>
          rw [writable]
          rfl
  | delete token =>
      rw [SessionCall.carryOut, deleteSession, writable]
      rfl
  | purge now =>
      rw [SessionCall.carryOut, purgeSessions, writable]
      rfl

theorem carryOut_of_not_writable {failure : Failure} (refused : database.writable = .error failure)
    (call : SessionCall) : call.carryOut database = database := by
  cases call with
  | upsert filing =>
      rw [SessionCall.carryOut, upsertSession]
      cases checked : SessionTable.checkToken filing.token with
      | error failure => rfl
      | ok _ =>
          rw [refused]
          rfl
  | delete token =>
      rw [SessionCall.carryOut, deleteSession, refused]
      rfl
  | purge now =>
      rw [SessionCall.carryOut, purgeSessions, refused]
      rfl

/-- The calls reach the table of sessions, or nothing at all. -/
theorem runSessions_eq (database : Database) (calls : List SessionCall) :
    database.runSessions calls =
      if database.writable.isOk then
        database.withSessions (calls.foldl SessionTable.change database.tables.sessions)
      else database := by
  cases writable : database.writable with
  | error failure =>
      induction calls with
      | nil => rfl
      | cons call later ih =>
          change (call.carryOut database).runSessions later = _
          rw [carryOut_of_not_writable writable]
          exact ih
  | ok _ =>
      change _ = database.withSessions (calls.foldl SessionTable.change database.tables.sessions)
      induction calls generalizing database with
      | nil => rfl
      | cons call later ih =>
          change (call.carryOut database).runSessions later = _
          rw [carryOut_of_writable writable]
          exact ih (database.withSessions _) writable

theorem Answers.runSessions (answers : database.Answers) (calls : List SessionCall) :
    (database.runSessions calls).Answers := by
  rw [runSessions_eq]
  split
  · exact answers
  · exact answers

/-- Whatever calls are made, the table has a row for each filing that is on file. -/
theorem keeps_onFile (unused : database.tables.sessions = .empty) (calls : List SessionCall) :
    (database.runSessions calls).tables.sessions.Keeps (database.onFile calls) := by
  rw [runSessions_eq, onFile]
  split
  · change (calls.foldl SessionTable.change database.tables.sessions).Keeps _
    rw [unused]
    exact .run calls
  · rw [unused]
    exact .empty

theorem onFile_sublist (database : Database) (calls : List SessionCall) :
    (database.onFile calls).Sublist (calls.filterMap SessionCall.filed?) := by
  unfold onFile
  split
  · exact standing_sublist calls
  · exact List.nil_sublist _

theorem ready_eq_ok_iff : database.ready = .ok () ↔ database.isClosed = false := by
  unfold ready
  cases database.isClosed with
  | true => exact iff_of_false (fun impossible => nomatch impossible) Bool.true_eq_false.mp
  | false => exact iff_of_true rfl rfl

theorem checkColumn_eq_ok_iff {connection : Connection} {column : String}
    {rows : List SessionRow} :
    connection.checkColumn column rows = .ok () ↔
      (rows ≠ [] → connection.fullNames = false) := by
  unfold Connection.checkColumn
  cases connection.fullNames with
  | false => exact iff_of_true rfl fun _ => rfl
  | true =>
      cases rows with
      | nil => exact iff_of_true rfl fun nothing => absurd rfl nothing
      | cons row rest =>
          refine iff_of_false (fun impossible => nomatch impossible) fun named => ?_
          cases named (List.cons_ne_nil row rest)

/-- A query for the latest session answers as the rows do, if the database is open and finds their
columns. -/
theorem query_eq_iff {rows : List SessionRow} {filings : List SessionFiling}
    (empty : rows = [] ↔ filings = [])
    (covered : ∀ filing ∈ filings, filing.isCovered = true)
    (answers : (SessionTable.mk rows).latest = lastFiled filings ↔
      database.tables.sessions.Singles filings) :
    (database.ready >>= fun _ =>
        database.connection.checkColumn "token_expiry" rows >>= fun _ =>
          (SessionTable.mk rows).latest) = lastFiled filings ↔
      database.TellsLast filings := by
  obtain ⟨answer, told⟩ := exists_lastFiled covered
  rw [told] at answers ⊢
  constructor
  · intro found
    obtain ⟨_, isReady, found⟩ := bind_eq_ok.mp found
    obtain ⟨_, named, found⟩ := bind_eq_ok.mp found
    refine ⟨ready_eq_ok_iff.mp isReady, fun some => ?_, answers.mp found⟩
    exact checkColumn_eq_ok_iff.mp named (mt empty.mp some)
  · rintro ⟨isOpen, named, singles⟩
    have columns : database.connection.checkColumn "token_expiry" rows = .ok () :=
      checkColumn_eq_ok_iff.mpr fun some => named (mt empty.mpr some)
    refine bind_eq_ok.mpr ⟨(), ready_eq_ok_iff.mpr isOpen, ?_⟩
    exact bind_eq_ok.mpr ⟨(), columns, answers.mpr singles⟩

/-- **The most recent session.** Sessions are upserted, deleted and purged in a database that has
none at first, at times that do not go back. The latest session, of all or of one service, is the
last one upserted that is still there if and only if the database is open and finds its columns, and
no session that was upserted in the same millisecond has a greater row number, which is one that was
created later. On an open database that finds its columns this holds whenever each upsert has a
millisecond of its own. -/
theorem latest_is_last_filed_iff (database : Database) (calls : List SessionCall)
    (unused : database.tables.sessions = .empty)
    (covered : ∀ filing ∈ calls.filterMap SessionCall.filed?, filing.isCovered = true)
    (chronological : (calls.filterMap SessionCall.filed?).Pairwise fun earlier later =>
      earlier.time ≤ later.time) (service : String) :
    let after := database.runSessions calls
    let filings := database.onFile calls
    let served := filings.filter fun filing => filing.service == service
    (after.latestSession = lastFiled filings ↔ after.TellsLast filings) ∧
      (after.latestSessionOf service = lastFiled served ↔ after.TellsLast served) ∧
      (database.Answers →
        ((calls.filterMap SessionCall.filed?).Pairwise fun earlier later =>
          earlier.time < later.time) →
        after.TellsLast filings ∧ after.TellsLast served) := by
  intro after filings served
  have keeps : after.tables.sessions.Keeps filings := keeps_onFile unused calls
  have all : filings.Sublist (calls.filterMap SessionCall.filed?) := database.onFile_sublist calls
  have some : served.Sublist filings := List.filter_sublist
  have ofService : (SessionTable.mk (after.tables.sessions.rowsOf service)).Keeps served :=
    keeps.filter fun filing => filing.service == service
  refine ⟨?_, ?_, fun answers ascending => ?_⟩
  · have covers : ∀ filing ∈ filings, filing.isCovered = true := fun filing member =>
      covered filing (all.subset member)
    refine query_eq_iff keeps.rows_eq_nil_iff covers ?_
    exact keeps.latest_eq_iff keeps (fun _ member => member) (chronological.sublist all) covers
  · have covers : ∀ filing ∈ served, filing.isCovered = true := fun filing member =>
      covered filing ((some.trans all).subset member)
    refine query_eq_iff ofService.rows_eq_nil_iff covers ?_
    exact keeps.latest_eq_iff ofService (fun _ => List.mem_of_mem_filter)
      (chronological.sublist (some.trans all)) covers
  · obtain ⟨isOpen, named⟩ := answers.runSessions calls
    have singles := after.tables.sessions.singles_of_ascending (ascending.sublist all)
    have singlesOf :=
      after.tables.sessions.singles_of_ascending (ascending.sublist (some.trans all))
    exact ⟨⟨isOpen, fun _ => named, singles⟩, ⟨isOpen, fun _ => named, singlesOf⟩⟩

/-- A login of a service, filed at the fifth millisecond. -/
def login (token service : String) : SessionFiling := ⟨token, service, "{}", none, 5⟩

/-- The session of that login. -/
def loggedIn (token service : String) : Session := ⟨token, service, "{}", none, ⟨0, 5000000⟩⟩

/-- A session is deleted and filed again within one millisecond. It gets a new number, behind that of
the session that has come in between. -/
def returned : List SessionCall :=
  [.upsert (login "a" "twitch"), .upsert (login "b" "kick"), .delete "a",
    .upsert (login "a" "twitch"), .purge 9]

theorem latest_is_last_filed_iff_returned :
    (vacant.runSessions returned).latestSession = .ok (some (loggedIn "a" "twitch")) ∧
      (vacant.runSessions returned).latestSessionOf "kick" =
        .ok (some (loggedIn "b" "kick")) := by
  obtain ⟨all, kick, -⟩ := latest_is_last_filed_iff vacant returned rfl (by decide +kernel)
    (by decide) "kick"
  have first : (vacant.runSessions returned).TellsLast (vacant.onFile returned) :=
    ⟨rfl, fun _ => rfl, by decide⟩
  have second : (vacant.runSessions returned).TellsLast
      ((vacant.onFile returned).filter fun filing => filing.service == "kick") :=
    ⟨rfl, fun _ => rfl, by decide⟩
  exact ⟨(all.mpr first).trans (by decide +kernel), (kick.mpr second).trans (by decide +kernel)⟩

/-- Settings under which a result names a column together with its table. -/
def wideNames : StorageSettings :=
  ⟨.persistent, some "chat.db", 1, 5000, ["full_column_names=1", "short_column_names=0"]⟩

/-- **A session that was filed last is passed over.** A session is filed, then another, then the first
one again, all in one millisecond. The first keeps its row number, and the query answers with the
other. There is another way to miss the last session, for which no two filings need to fall in one
millisecond: under settings that hide the columns a session is filed, and no query finds it. -/
theorem refiled_session_is_passed_over :
    let calls : List SessionCall :=
      [.upsert (login "a" "twitch"), .upsert (login "b" "twitch"), .upsert (login "a" "twitch")]
    lastFiled (vacant.onFile calls) = .ok (some (loggedIn "a" "twitch")) ∧
      (vacant.runSessions calls).latestSession = .ok (some (loggedIn "b" "twitch")) ∧
      (vacant.runSessions calls).latestSessionOf "twitch" =
        .ok (some (loggedIn "b" "twitch")) ∧
      ((Database.openAt wideNames "" .absent).map fun database =>
          (lastFiled (database.onFile [.upsert (login "a" "twitch")]),
            (database.runSessions [.upsert (login "a" "twitch")]).latestSession)) =
        .ok (.ok (some (loggedIn "a" "twitch")),
          .error (.database "no column found for name: token_expiry")) := by
  refine ⟨by decide +kernel, by decide +kernel, by decide +kernel, by decide +kernel⟩

end Database

end LiveChat.Store
