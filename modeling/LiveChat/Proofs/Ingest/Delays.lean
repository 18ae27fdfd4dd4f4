import LiveChat.Ingest.Backoff
import Mathlib.Algebra.Order.Ring.Nat
import Mathlib.Data.List.DropRight

/-!
# Delays in closed form

A delay doubles up to the ceiling, and doubling stops at the longest span. As long as the first delay
and the ceiling are spans that occur, that is the same as to double without bounds and to cut at the
ceiling in the end (`Backoff.take_after`, `Backoff.reset_after`). So only the delays that were taken
since the schedule started over count, whatever else is asked of it (`Backoff.run_new`), and the
delays that it gives are put together in `Backoff.delays_double_up_to_ceiling`.
-/

namespace LiveChat.Ingest.Backoff

open LiveChat.Time

variable {base ceiling : Duration}

/-- The delay after some doublings, in unbounded arithmetic. -/
def doubled (base ceiling : Duration) (count : Nat) : Duration :=
  min (base * 2 ^ count) (max base ceiling)

/-- The state in which the delay has been doubled some times since it started over. -/
def after (base ceiling : Duration) (count : Nat) : Backoff :=
  ⟨base, max ceiling base, doubled base ceiling count⟩

theorem doubled_zero (base ceiling : Duration) : doubled base ceiling 0 = base := by
  rw [doubled, pow_zero, Nat.mul_one]
  exact Nat.min_eq_left (Nat.le_max_left _ _)

theorem base_le_doubled (base ceiling : Duration) (count : Nat) :
    base ≤ doubled base ceiling count :=
  Nat.le_min.mpr ⟨Nat.le_mul_of_pos_right _ (Nat.two_pow_pos count), Nat.le_max_left _ _⟩

/-- One more doubling, and a cut. -/
theorem doubled_succ (base ceiling : Duration) (count : Nat) :
    doubled base ceiling (count + 1) =
      min (2 * doubled base ceiling count) (max base ceiling) := by
  have cutTwice (delay cap : Nat) : min (delay * 2) cap = min (2 * min delay cap) cap := by omega
  rw [doubled, doubled, pow_succ, ← Nat.mul_assoc]
  exact cutTwice _ _

theorem doubled_le_ceiling (base ceiling : Duration) (count : Nat) :
    doubled base ceiling count ≤ max base ceiling :=
  Nat.min_le_right _ _

theorem monotone_doubled (base ceiling : Duration) : Monotone (doubled base ceiling) := by
  intro fewer more within
  have grows : base * 2 ^ fewer ≤ base * 2 ^ more :=
    Nat.mul_le_mul_left base (Nat.pow_le_pow_right Nat.two_pos within)
  exact min_le_min_right (max base ceiling) grows

theorem doubled_lt_succ (positive : 0 < base) {count : Nat}
    (below : doubled base ceiling count < max base ceiling) :
    doubled base ceiling count < doubled base ceiling (count + 1) := by
  have positive : 0 < doubled base ceiling count :=
    Nat.lt_of_lt_of_le positive (base_le_doubled base ceiling count)
  rw [doubled_succ]
  exact Nat.lt_min.mpr ⟨(Nat.lt_mul_iff_one_lt_left positive).mpr Nat.one_lt_two, below⟩

theorem doubled_succ_of_capped {count : Nat}
    (capped : doubled base ceiling count = max base ceiling) :
    doubled base ceiling (count + 1) = max base ceiling := by
  rw [doubled_succ, capped]
  exact Nat.min_eq_right (Nat.le_mul_of_pos_left _ Nat.two_pos)

theorem new_eq (base ceiling : Duration) : new base ceiling = after base ceiling 0 := by
  rw [after, doubled_zero]
  rfl

theorem reset_after (base ceiling : Duration) (count : Nat) :
    (after base ceiling count).reset = after base ceiling 0 := by
  rw [after, after, doubled_zero]
  rfl

/-- The delay that is taken is the doubled one, and the next one has been doubled once more. -/
theorem take_after (baseFits : base ≤ Duration.longest) (ceilingFits : ceiling ≤ Duration.longest)
    (count : Nat) :
    (after base ceiling count).take =
      (doubled base ceiling count, after base ceiling (count + 1)) := by
  have upcoming : nextDelay (doubled base ceiling count) base (max ceiling base) =
      doubled base ceiling (count + 1) := by
    have first := base_le_doubled base ceiling count
    have fits : max base ceiling ≤ Duration.longest := Nat.max_le.mpr ⟨baseFits, ceilingFits⟩
    have cap : max (max ceiling base) base = max base ceiling := by
      rw [Nat.max_assoc, Nat.max_self, Nat.max_comm]
    rw [nextDelay, if_neg (Nat.not_lt.mpr first), doubled_succ, Duration.double, cap,
      Nat.min_assoc, Nat.min_eq_right fits]
  rw [take, after, after, upcoming]

/-- The delay that follows any other one is not below the first delay and not above the ceiling. -/
theorem nextDelay_within (baseFits : base ≤ Duration.longest) (current ceiling : Duration) :
    base ≤ nextDelay current base ceiling ∧ nextDelay current base ceiling ≤ max base ceiling := by
  unfold nextDelay
  by_cases below : current < base
  · rw [if_pos below]
    exact ⟨Nat.le_refl _, Nat.le_max_left _ _⟩
  · have twice : base ≤ 2 * current :=
      (Nat.not_lt.mp below).trans (Nat.le_mul_of_pos_left _ Nat.two_pos)
    rw [if_neg below, Nat.max_comm ceiling base]
    exact ⟨Nat.le_min.mpr ⟨Nat.le_min.mpr ⟨twice, baseFits⟩, Nat.le_max_left _ _⟩,
      Nat.min_le_right _ _⟩

end LiveChat.Ingest.Backoff

namespace LiveChat.Ingest

open LiveChat.Time

/-- A call on a schedule of delays. -/
inductive DelayCall where
  | take
  | peek
  | reset
deriving DecidableEq, Repr

namespace DelayCall

/-- The number of delays that were taken since the schedule started over. -/
def takenSinceReset (calls : List DelayCall) : Nat :=
  (calls.rtakeWhile (· != .reset)).count .take

theorem takenSinceReset_concat_of_ne {call : DelayCall} (going : call ≠ .reset)
    (calls : List DelayCall) :
    takenSinceReset (calls ++ [call]) = takenSinceReset calls + [call].count .take := by
  have kept : (call != .reset) = true := bne_iff_ne.mpr going
  rw [takenSinceReset, List.rtakeWhile_concat, if_pos kept, List.count_append]
  rfl

theorem takenSinceReset_concat_reset (calls : List DelayCall) :
    takenSinceReset (calls ++ [.reset]) = 0 := by
  rw [takenSinceReset, List.rtakeWhile_concat, if_neg (by decide), List.count_nil]

theorem takenSinceReset_append {more : List DelayCall} (going : .reset ∉ more)
    (calls : List DelayCall) :
    takenSinceReset (calls ++ more) = takenSinceReset calls + more.count .take := by
  induction more using List.reverseRecOn with
  | nil => rw [List.append_nil, List.count_nil, Nat.add_zero]
  | append_singleton more call ih =>
      rw [List.mem_append, not_or, List.mem_singleton] at going
      rw [← List.append_assoc, takenSinceReset_concat_of_ne (Ne.symm going.2), ih going.1,
        List.count_append, Nat.add_assoc]

end DelayCall

namespace Backoff

variable {base ceiling : Duration}

/-- The schedule after a call. -/
def step (backoff : Backoff) : DelayCall → Backoff
  | .take => backoff.take.2
  | .peek => backoff
  | .reset => backoff.reset

def run (backoff : Backoff) (calls : List DelayCall) : Backoff := calls.foldl step backoff

theorem run_concat (backoff : Backoff) (calls : List DelayCall) (call : DelayCall) :
    backoff.run (calls ++ [call]) = (backoff.run calls).step call := by
  rw [run, List.foldl_append]
  rfl

section Calls

variable (baseFits : base ≤ Duration.longest) (ceilingFits : ceiling ≤ Duration.longest)

include baseFits ceilingFits

/-- After any calls the delay has been doubled as often as one was taken since the last reset. -/
theorem run_new (calls : List DelayCall) :
    (new base ceiling).run calls = after base ceiling (DelayCall.takenSinceReset calls) := by
  -- From the end of the calls, as a reset makes all that is in front of it count for nothing.
  induction calls using List.reverseRecOn with
  | nil => exact new_eq base ceiling
  | append_singleton calls call ih =>
      rw [run_concat, ih]
      cases call with
      | take =>
          rw [DelayCall.takenSinceReset_concat_of_ne (by decide)]
          exact congrArg Prod.snd (take_after baseFits ceilingFits _)
      | peek =>
          rw [DelayCall.takenSinceReset_concat_of_ne (by decide)]
          rfl
      | reset =>
          rw [DelayCall.takenSinceReset_concat_reset]
          exact reset_after base ceiling _

theorem take_run_new (calls : List DelayCall) :
    ((new base ceiling).run calls).take.1 =
      doubled base ceiling (DelayCall.takenSinceReset calls) := by
  rw [run_new baseFits ceilingFits, take_after baseFits ceilingFits]

/-- Without a reset, a later delay has been doubled once more for each delay that was taken. -/
theorem take_run_append {more : List DelayCall} (going : .reset ∉ more) (calls : List DelayCall) :
    ((new base ceiling).run (calls ++ more)).take.1 =
      doubled base ceiling (DelayCall.takenSinceReset calls + more.count .take) := by
  rw [take_run_new baseFits ceilingFits, DelayCall.takenSinceReset_append going]

end Calls

/-- **The delays of a schedule.** In any sequence of calls, a delay that is taken is the first one,
doubled without bounds for each delay taken since the schedule started over, and cut at the ceiling.
A look ahead shows the delay that is taken next. So delays do not decrease until the schedule starts
over, and they stay between the first one and the ceiling, as does the delay after any other. -/
theorem delays_double_up_to_ceiling {base ceiling : Duration} (baseFits : base ≤ Duration.longest)
    (ceilingFits : ceiling ≤ Duration.longest) :
    let run := (new base ceiling).run
    (∀ calls, (run calls).take.1 =
      min (base * 2 ^ DelayCall.takenSinceReset calls) (max base ceiling)) ∧
    (∀ calls looks, (∀ look ∈ looks, look = .peek) →
      (run calls).peek = (run (calls ++ looks)).take.1) ∧
    (∀ calls more, .reset ∉ more → (run calls).take.1 ≤ (run (calls ++ more)).take.1) ∧
    (∀ calls, base ≤ (run calls).take.1 ∧ (run calls).take.1 ≤ max base ceiling) ∧
    ∀ current, base ≤ nextDelay current base ceiling ∧
      nextDelay current base ceiling ≤ max base ceiling := by
  intro run
  have taken (calls : List DelayCall) : (run calls).take.1 = _ :=
    take_run_new baseFits ceilingFits calls
  have takenLater {more : List DelayCall} (going : .reset ∉ more) (calls : List DelayCall) :
      (run (calls ++ more)).take.1 = _ :=
    take_run_append baseFits ceilingFits going calls
  refine ⟨taken, ?_, ?_, ?_, fun current => nextDelay_within baseFits current ceiling⟩
  · intro calls looks only
    have going : .reset ∉ looks := fun member => by cases only _ member
    have idle : looks.count .take = 0 :=
      List.count_eq_zero.mpr fun member => by cases only _ member
    rw [takenLater going, idle]
    exact taken calls
  · intro calls more going
    rw [taken, takenLater going]
    exact monotone_doubled base ceiling (Nat.le_add_right _ _)
  · intro calls
    rw [taken]
    exact ⟨base_le_doubled base ceiling _, doubled_le_ceiling base ceiling _⟩

/-- A schedule whose ceiling is the longest span: doubling twice goes beyond it. -/
theorem delays_double_up_to_ceiling_longest :
    let run := (new (Duration.longest / 3) Duration.longest).run
    Duration.longest / 3 ≤ Duration.longest ∧ Duration.longest ≤ Duration.longest ∧
      (run [.take]).take.1 = Duration.longest / 3 * 2 ∧
      (run [.take, .take]).peek = Duration.longest ∧
      (run [.take, .take, .reset]).take.1 = Duration.longest / 3 := by
  intro run
  have baseFits : Duration.longest / 3 ≤ Duration.longest := Nat.div_le_self _ _
  have ceilingFits : Duration.longest ≤ Duration.longest := Nat.le_refl _
  obtain ⟨taken, looked, -, -, -⟩ := delays_double_up_to_ceiling baseFits ceilingFits
  refine ⟨baseFits, ceilingFits, ?_, ?_, ?_⟩
  · rw [taken]
    decide +kernel
  · rw [looked [.take, .take] [.peek] (by simp), taken]
    decide +kernel
  · rw [taken]
    decide +kernel

end Backoff

end LiveChat.Ingest
