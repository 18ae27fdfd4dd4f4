import LiveChat.Ingest.Supervisor
import LiveChat.Proofs.Ingest.Delays
import Mathlib.Data.List.Basic
import Mathlib.Data.Nat.Find

/-!
# The schedule of restarts

What a source tells is determined by the attempts that came to an end and by what it is at since then
(`Record`): each attempt is told of, and then its delay, which has doubled with each attempt since
the last healthy one (`Source.run_ofRecord`). A source that is cancelled says so once and then
falls silent. This is put together in `Source.restarts_on_schedule`.
-/

namespace LiveChat.Ingest

open LiveChat.Time

/-- An attempt to run the harvester that came to its end. -/
inductive Attempt where
  | failed (reason : String)
  | ended (hasProcessId : Bool) (code : Option Int) (delivered : Nat) (uptime : Duration)
deriving DecidableEq, Repr

namespace Attempt

def ofOutcome : RunOutcome → Attempt
  | .startFailed reason => .failed reason
  | .ended code delivered uptime => .ended true code delivered uptime

/-- The harvester delivered a line or lasted long enough. -/
def isHealthy (healthyAfter : Duration) : Attempt → Bool
  | .failed _ => false
  | .ended _ _ delivered uptime => 0 < delivered || healthyAfter ≤ uptime

def events (healthyAfter : Duration) : Attempt → List SourceEvent
  | .failed reason => [.startFailed reason]
  | .ended hasProcessId code delivered uptime =>
      [.started hasProcessId, .exited code (0 < delivered || healthyAfter ≤ uptime)]

end Attempt

/-- What a source is at. -/
inductive Standing where
  | ready
  | underWay (hasProcessId : Bool)
  | waiting
  /-- Supervision was cancelled, maybe in the course of an attempt. -/
  | stopped (during : Option Bool)
deriving DecidableEq, Repr

namespace Standing

def isStopped : Standing → Bool
  | .stopped _ => true
  | _ => false

def phase : Standing → SourcePhase
  | .ready => .starting
  | .underWay _ => .running
  | .waiting => .waiting
  | .stopped _ => .stopped

def events : Standing → List SourceEvent
  | .underWay hasProcessId => [.started hasProcessId]
  | .stopped (some hasProcessId) => [.started hasProcessId, .stopped]
  | .stopped none => [.stopped]
  | _ => []

theorem stopped_mem_events (standing : Standing) :
    .stopped ∈ standing.events ↔ standing.isStopped = true := by
  rcases standing with _ | _ | _ | (_ | _) <;> simp [events, isStopped]

end Standing

section Healthy

variable (healthyAfter : Duration) {attempts : List Attempt} {attempt : Attempt} {index : Nat}

def isHealthyAt (attempts : List Attempt) (index : Nat) : Bool :=
  attempts[index]?.any (Attempt.isHealthy healthyAfter)

/-- The number of the last healthy attempt up to one with a number, and that of the first attempt if
there is none. -/
def lastHealthy (attempts : List Attempt) (index : Nat) : Nat :=
  Nat.findGreatest (fun earlier => isHealthyAt healthyAfter attempts earlier = true) index

def sinceHealthy (attempts : List Attempt) (index : Nat) : Nat :=
  index - lastHealthy healthyAfter attempts index

theorem isHealthyAt_append_left (within : index < attempts.length) (later : List Attempt) :
    isHealthyAt healthyAfter (attempts ++ later) index =
      isHealthyAt healthyAfter attempts index := by
  rw [isHealthyAt, isHealthyAt, List.getElem?_append_left within]

theorem isHealthyAt_append_last (attempts : List Attempt) (attempt : Attempt) :
    isHealthyAt healthyAfter (attempts ++ [attempt]) attempts.length =
      attempt.isHealthy healthyAfter := by
  rw [isHealthyAt, List.getElem?_concat_length, Option.any_some]

theorem isHealthyAt_length (attempts : List Attempt) :
    isHealthyAt healthyAfter attempts attempts.length = false := by
  rw [isHealthyAt, List.getElem?_eq_none (Nat.le_refl _), Option.any_none]

/-- Later attempts leave it as it is which one was the last healthy one. -/
theorem lastHealthy_append_left (within : index < attempts.length) (later : List Attempt) :
    lastHealthy healthyAfter (attempts ++ later) index =
      lastHealthy healthyAfter attempts index := by
  induction index with
  | zero => rfl
  | succ index ih =>
      have earlier := ih (Nat.lt_of_succ_lt within)
      unfold lastHealthy at earlier ⊢
      simp only [Nat.findGreatest_succ, isHealthyAt_append_left healthyAfter within, earlier]

theorem sinceHealthy_append_left (within : index < attempts.length) (later : List Attempt) :
    sinceHealthy healthyAfter (attempts ++ later) index =
      sinceHealthy healthyAfter attempts index := by
  rw [sinceHealthy, sinceHealthy, lastHealthy_append_left healthyAfter within]

theorem sinceHealthy_succ (fails : isHealthyAt healthyAfter attempts (index + 1) = false) :
    sinceHealthy healthyAfter attempts (index + 1) =
      sinceHealthy healthyAfter attempts index + 1 := by
  have same : lastHealthy healthyAfter attempts (index + 1) =
      lastHealthy healthyAfter attempts index :=
    Nat.findGreatest_of_not (Bool.eq_false_iff.mp fails)
  have bound : lastHealthy healthyAfter attempts index ≤ index := Nat.findGreatest_le index
  rw [sinceHealthy, sinceHealthy, same]
  omega

theorem sinceHealthy_of_healthy (healthy : isHealthyAt healthyAfter attempts index = true) :
    sinceHealthy healthyAfter attempts index = 0 := by
  have here : lastHealthy healthyAfter attempts index = index := Nat.findGreatest_eq healthy
  rw [sinceHealthy, here, Nat.sub_self]

/-- An attempt that is not healthy adds to those before it. -/
theorem sinceHealthy_append_last (fails : attempt.isHealthy healthyAfter = false) :
    sinceHealthy healthyAfter (attempts ++ [attempt]) attempts.length =
      sinceHealthy healthyAfter attempts attempts.length := by
  have last := isHealthyAt_append_last healthyAfter attempts attempt
  have beyond := isHealthyAt_length healthyAfter attempts
  generalize same : attempts.length = count at last beyond
  cases count with
  | zero => rfl
  | succ count =>
      rw [sinceHealthy_succ healthyAfter (last.trans fails), sinceHealthy_succ healthyAfter beyond,
        sinceHealthy_append_left healthyAfter (by omega)]

theorem sinceHealthy_length (attempts : List Attempt) (attempt : Attempt) :
    sinceHealthy healthyAfter (attempts ++ [attempt]) (attempts ++ [attempt]).length =
      sinceHealthy healthyAfter (attempts ++ [attempt]) attempts.length + 1 := by
  have beyond := isHealthyAt_length healthyAfter (attempts ++ [attempt])
  rw [List.length_append, List.length_singleton] at beyond ⊢
  exact sinceHealthy_succ healthyAfter beyond

end Healthy

/-- What happened to a source: the attempts that came to an end, the oldest first, and what it is at
since then. -/
structure Record where
  attempts : List Attempt
  standing : Standing
deriving DecidableEq, Repr

namespace Record

def empty : Record := ⟨[], .ready⟩

/-- Takes down a signal. A signal that does not fit is not taken down, and none is after the source
was cancelled. -/
def step (record : Record) (signal : SourceSignal) : Record :=
  match record.standing, signal with
  | .stopped _, _ => record
  | .underWay hasProcessId, .cancelled => { record with standing := .stopped (some hasProcessId) }
  | _, .cancelled => { record with standing := .stopped none }
  | .ready, .started hasProcessId => { record with standing := .underWay hasProcessId }
  | .ready, .startFailed reason => ⟨record.attempts ++ [.failed reason], .waiting⟩
  | .underWay hasProcessId, .ended code delivered uptime =>
      ⟨record.attempts ++ [.ended hasProcessId code delivered uptime], .waiting⟩
  | .waiting, .resumed => { record with standing := .ready }
  | _, _ => record

def run (record : Record) (signals : List SourceSignal) : Record := signals.foldl step record

/-- The delay after the attempt with a number. -/
def delay (base ceiling healthyAfter : Duration) (record : Record) (index : Nat) : Duration :=
  Backoff.doubled base ceiling (sinceHealthy healthyAfter record.attempts index)

/-- What is told of the attempts, of each with its delay. -/
def history (base ceiling healthyAfter : Duration) (record : Record) : List SourceEvent :=
  record.attempts.zipIdx.flatMap fun (attempt, index) =>
    attempt.events healthyAfter ++ [.backingOff (record.delay base ceiling healthyAfter index)]

def events (base ceiling healthyAfter : Duration) (record : Record) : List SourceEvent :=
  record.history base ceiling healthyAfter ++ record.standing.events

theorem history_append (base ceiling healthyAfter : Duration) (attempts : List Attempt)
    (attempt : Attempt) (standing next : Standing) :
    history base ceiling healthyAfter ⟨attempts ++ [attempt], next⟩ =
      history base ceiling healthyAfter ⟨attempts, standing⟩ ++
        (attempt.events healthyAfter ++
          [.backingOff (delay base ceiling healthyAfter ⟨attempts ++ [attempt], next⟩
            attempts.length)]) := by
  have earlier : (attempts.zipIdx.flatMap fun (earlier, index) =>
        earlier.events healthyAfter ++ [.backingOff
          (delay base ceiling healthyAfter ⟨attempts ++ [attempt], next⟩ index)]) =
      history base ceiling healthyAfter ⟨attempts, standing⟩ := by
    refine List.flatMap_congr fun (earlier, index) member => ?_
    have within : index < attempts.length :=
      (List.getElem?_eq_some_iff.mp (List.mk_mem_zipIdx_iff_getElem?.mp member)).1
    simp only [delay, sinceHealthy_append_left healthyAfter within]
  rw [← earlier, history, List.zipIdx_append, List.flatMap_append, Nat.zero_add,
    List.zipIdx_singleton, List.flatMap_singleton]

/-- An attempt that ends is told of with its delay. -/
theorem events_of_attempt (attempts : List Attempt) (attempt : Attempt) (standing : Standing)
    {told : List SourceEvent}
    (tells : standing.events ++ told = attempt.events healthyAfter ++
      [.backingOff (delay base ceiling healthyAfter ⟨attempts ++ [attempt], .waiting⟩
        attempts.length)]) :
    events base ceiling healthyAfter ⟨attempts, standing⟩ ++ told =
      events base ceiling healthyAfter ⟨attempts ++ [attempt], .waiting⟩ := by
  rw [events, List.append_assoc, tells, events, history_append _ _ _ _ _ standing]
  exact (List.append_nil _).symm

variable {record : Record} {during : Option Bool}

theorem step_of_stopped
    (stopped : record.standing = .stopped during) (signal : SourceSignal) :
    record.step signal = record := by
  obtain ⟨attempts, standing⟩ := record
  cases stopped
  rfl

theorem run_of_stopped
    (stopped : record.standing = .stopped during) (signals : List SourceSignal) :
    record.run signals = record := by
  induction signals with
  | nil => rfl
  | cons signal rest ih =>
      change (record.step signal).run rest = record
      rw [step_of_stopped stopped, ih]

theorem isStopped_step (record : Record) (signal : SourceSignal) :
    (record.step signal).standing.isStopped = true ↔
      record.standing.isStopped = true ∨ signal = .cancelled := by
  obtain ⟨attempts, standing⟩ := record
  cases standing <;> cases signal <;> simp [step, Standing.isStopped]

theorem isStopped_run (record : Record) (signals : List SourceSignal) :
    (record.run signals).standing.isStopped = true ↔
      record.standing.isStopped = true ∨ .cancelled ∈ signals := by
  induction signals generalizing record with
  | nil => simp [run]
  | cons signal rest ih =>
      change ((record.step signal).run rest).standing.isStopped = true ↔ _
      rw [ih, isStopped_step, List.mem_cons, or_assoc, @eq_comm _ signal]

/-- A source that is cancelled says so, and nothing after that. -/
theorem events_run_of_cancelled (going : record.standing.isStopped = false)
    (later : List SourceSignal) :
    (record.run (.cancelled :: later)).events base ceiling healthyAfter =
      record.events base ceiling healthyAfter ++ [.stopped] := by
  obtain ⟨attempts, standing⟩ := record
  change (run (step _ .cancelled) later).events _ _ _ = _
  cases standing with
  | ready | waiting | underWay _ =>
      rw [run_of_stopped rfl, events, events, List.append_assoc]
      rfl
  | stopped _ => cases going

theorem stopped_not_mem_history (record : Record) :
    .stopped ∉ record.history base ceiling healthyAfter := by
  rw [history, List.mem_flatMap]
  rintro ⟨⟨attempt, index⟩, -, told⟩
  cases attempt <;> simp [Attempt.events] at told

theorem stopped_mem_events (record : Record) :
    .stopped ∈ record.events base ceiling healthyAfter ↔ record.standing.isStopped = true := by
  rw [events, List.mem_append, or_iff_right record.stopped_not_mem_history,
    Standing.stopped_mem_events]

/-- The signals of some runs are taken down as these runs. -/
theorem run_signalsOf (attempts : List Attempt) (runs : List RunOutcome) :
    (run ⟨attempts, .ready⟩ (signalsOf runs)).attempts = attempts ++ runs.map .ofOutcome := by
  have single (attempts : List Attempt) (outcome : RunOutcome) :
      run ⟨attempts, .ready⟩ outcome.signals = ⟨attempts ++ [.ofOutcome outcome], .waiting⟩ := by
    cases outcome <;> rfl
  induction runs generalizing attempts with
  | nil => exact (List.append_nil attempts).symm
  | cons outcome rest ih =>
      cases rest with
      | nil =>
          rw [signalsOf, List.map_singleton, List.intercalate_singleton, single, List.map_singleton]
      | cons next rest =>
          have split : signalsOf (outcome :: next :: rest) =
              outcome.signals ++ .resumed :: signalsOf (next :: rest) := by
            simp [signalsOf, List.intercalate]
          rw [split, run, List.foldl_append]
          change (run (step (run _ _) .resumed) _).attempts = _
          rw [single]
          exact (ih (attempts ++ [.ofOutcome outcome])).trans (List.append_assoc _ _ _)

end Record

namespace Source

variable {base ceiling healthyAfter : Duration}

/-- The source that has come to what a record says. -/
def ofRecord (base ceiling healthyAfter : Duration) (record : Record) : Source where
  healthyAfter := healthyAfter
  backoff :=
    .after base ceiling (sinceHealthy healthyAfter record.attempts record.attempts.length)
  phase := record.standing.phase

theorem new_eq_ofRecord (base ceiling healthyAfter : Duration) :
    new base ceiling healthyAfter = ofRecord base ceiling healthyAfter .empty := by
  rw [new, Backoff.new_eq]
  rfl

theorem run_cons (source : Source) (signal : SourceSignal) (rest : List SourceSignal) :
    (source.run (signal :: rest)).1 =
      (source.step signal).1 ++ ((source.step signal).2.run rest).1 :=
  rfl

section Step

variable (baseFits : base ≤ Duration.longest) (ceilingFits : ceiling ≤ Duration.longest)
  (healthyAfter)

include baseFits ceilingFits

/-- The delay that follows an attempt starts over if the attempt was healthy. -/
theorem backOff_of_attempt (record : Record) (attempt : Attempt) :
    let source := ofRecord base ceiling healthyAfter record
    let waiting : Record := ⟨record.attempts ++ [attempt], .waiting⟩
    backOff (if attempt.isHealthy healthyAfter then { source with backoff := source.backoff.reset }
        else source) =
      (waiting.delay base ceiling healthyAfter record.attempts.length,
        ofRecord base ceiling healthyAfter waiting) := by
  intro source waiting
  have next : ofRecord base ceiling healthyAfter waiting =
      { source with
        phase := .waiting
        backoff := .after base ceiling
          (sinceHealthy healthyAfter waiting.attempts record.attempts.length + 1) } := by
    rw [ofRecord, sinceHealthy_length]
    rfl
  rw [next, Record.delay]
  cases health : attempt.isHealthy healthyAfter with
  | true =>
      have last := (isHealthyAt_append_last healthyAfter record.attempts attempt).trans health
      rw [if_pos rfl, sinceHealthy_of_healthy healthyAfter last]
      simp only [backOff, source, ofRecord, Backoff.reset_after,
        Backoff.take_after baseFits ceilingFits]
  | false =>
      rw [if_neg Bool.false_ne_true, sinceHealthy_append_last healthyAfter health]
      simp only [backOff, source, ofRecord, Backoff.take_after baseFits ceilingFits]

/-- By a signal a source comes to what its record says then, and tells what the record has more. -/
theorem step_ofRecord (record : Record) (signal : SourceSignal) :
    let outcome := (ofRecord base ceiling healthyAfter record).step signal
    outcome.2 = ofRecord base ceiling healthyAfter (record.step signal) ∧
      record.events base ceiling healthyAfter ++ outcome.1 =
        (record.step signal).events base ceiling healthyAfter := by
  have ends := backOff_of_attempt healthyAfter baseFits ceilingFits record
  obtain ⟨attempts, standing⟩ := record
  cases standing with
  | ready =>
      cases signal with
      | startFailed reason =>
          have delayed := ends (.failed reason)
          refine ⟨congrArg Prod.snd delayed, Record.events_of_attempt attempts _ .ready ?_⟩
          exact congrArg (fun delay => [SourceEvent.startFailed reason, .backingOff delay])
            (congrArg Prod.fst delayed)
      | started hasProcessId => exact ⟨rfl, List.append_assoc _ _ _⟩
      | ended | resumed => exact ⟨rfl, List.append_nil _⟩
      | cancelled => exact ⟨rfl, List.append_assoc _ _ _⟩
  | underWay hasProcessId =>
      cases signal with
      | ended code delivered uptime =>
          have delayed := ends (.ended hasProcessId code delivered uptime)
          refine ⟨congrArg Prod.snd delayed, Record.events_of_attempt attempts _ (.underWay _) ?_⟩
          exact congrArg (fun delay => [SourceEvent.started hasProcessId,
            .exited code (0 < delivered || healthyAfter ≤ uptime), .backingOff delay])
            (congrArg Prod.fst delayed)
      | cancelled => exact ⟨rfl, List.append_assoc _ _ _⟩
      | started | startFailed | resumed => exact ⟨rfl, List.append_nil _⟩
  | waiting =>
      cases signal with
      | resumed => exact ⟨rfl, List.append_nil _⟩
      | cancelled => exact ⟨rfl, List.append_assoc _ _ _⟩
      | started | startFailed | ended => exact ⟨rfl, List.append_nil _⟩
  | stopped during => exact ⟨rfl, List.append_nil _⟩

/-- **What a source tells** is what its record says. -/
theorem run_ofRecord (record : Record) (signals : List SourceSignal) :
    record.events base ceiling healthyAfter ++
        ((ofRecord base ceiling healthyAfter record).run signals).1 =
      (record.run signals).events base ceiling healthyAfter := by
  induction signals generalizing record with
  | nil => exact List.append_nil _
  | cons signal rest ih =>
      obtain ⟨next, told⟩ :=
        step_ofRecord healthyAfter baseFits ceilingFits record signal
      rw [run_cons, ← List.append_assoc, told, next]
      exact ih (record.step signal)

theorem run_new (signals : List SourceSignal) :
    ((new base ceiling healthyAfter).run signals).1 =
      (Record.empty.run signals).events base ceiling healthyAfter := by
  rw [new_eq_ofRecord, ← run_ofRecord healthyAfter baseFits ceilingFits]
  exact (List.nil_append _).symm

end Step

/-- **The schedule of restarts.** Whatever happens to a source, it tells of the attempts one after the
other, of each with its delay, and then of an attempt that is under way and of its end. The delay
after an attempt is the first one, doubled for each attempt since the last healthy one, up to the
ceiling. The runs of a sequence of runs are such attempts. The source says that it is stopped if and
only if it was cancelled, at whatever moment, and nothing after that. As long as attempts are not
healthy, a positive delay grows until it has come to the ceiling, where it stays. -/
theorem restarts_on_schedule {base ceiling : Duration} (baseFits : base ≤ Duration.longest)
    (ceilingFits : ceiling ≤ Duration.longest) (healthyAfter : Duration)
    (signals : List SourceSignal) :
    let source := new base ceiling healthyAfter
    let told := (source.run signals).1
    let record := Record.empty.run signals
    let delay (index : Nat) : Duration :=
      min (base * 2 ^ (index - lastHealthy healthyAfter record.attempts index)) (max base ceiling)
    told =
        (record.attempts.zipIdx.flatMap fun (attempt, index) =>
          attempt.events healthyAfter ++ [.backingOff (delay index)]) ++ record.standing.events ∧
      (∀ runs, signals = signalsOf runs → record.attempts = runs.map Attempt.ofOutcome) ∧
      (.stopped ∈ told ↔ .cancelled ∈ signals) ∧
      (.cancelled ∉ signals → ∀ later,
        (source.run (signals ++ .cancelled :: later)).1 = told ++ [.stopped]) ∧
      (0 < base → ∀ index, isHealthyAt healthyAfter record.attempts (index + 1) = false →
        (delay index < max base ceiling → delay index < delay (index + 1)) ∧
        (delay index = max base ceiling → delay (index + 1) = max base ceiling)) := by
  intro source told record delay
  have tells (signals : List SourceSignal) : (source.run signals).1 =
      (Record.empty.run signals).events base ceiling healthyAfter :=
    run_new healthyAfter baseFits ceilingFits signals
  refine ⟨tells signals, ?_, ?_, ?_, ?_⟩
  · rintro runs rfl
    exact Record.run_signalsOf [] runs
  · rw [show told = _ from tells signals, Record.stopped_mem_events, Record.isStopped_run]
    exact or_iff_right Bool.false_ne_true
  · intro going later
    have notStopped : record.standing.isStopped = false := by
      rw [← Bool.not_eq_true, Record.isStopped_run]
      rintro (impossible | cancelled)
      · cases impossible
      · exact going cancelled
    rw [tells, show told = _ from tells signals, Record.run, List.foldl_append]
    exact Record.events_run_of_cancelled notStopped later
  · intro positive index fails
    have next : delay (index + 1) =
        Backoff.doubled base ceiling (sinceHealthy healthyAfter record.attempts index + 1) := by
      rw [← sinceHealthy_succ healthyAfter fails]
      rfl
    rw [next]
    exact ⟨Backoff.doubled_lt_succ positive, Backoff.doubled_succ_of_capped⟩

/-- Three runs that fail in different ways, a healthy one, and another that fails. -/
def unsteadyRuns : List RunOutcome :=
  [.ended (some 3) 0 (.ofMillis 20), .startFailed "gone", .ended none 0 (.ofMillis 999),
    .ended (some 0) 2 (.ofMillis 20), .ended (some 3) 0 (.ofMillis 20)]

theorem restarts_on_schedule_unsteadyRuns :
    let source := new (.ofMillis 10) (.ofMillis 40) (.ofMillis 1000)
    Duration.ofMillis 10 ≤ Duration.longest ∧ Duration.ofMillis 40 ≤ Duration.longest ∧
      .cancelled ∉ signalsOf unsteadyRuns ∧ 0 < Duration.ofMillis 10 ∧
      (source.run (signalsOf unsteadyRuns ++ [.cancelled, .resumed, .started true])).1 =
        [.started true, .exited (some 3) false, .backingOff (.ofMillis 10),
          .startFailed "gone", .backingOff (.ofMillis 20),
          .started true, .exited none false, .backingOff (.ofMillis 40),
          .started true, .exited (some 0) true, .backingOff (.ofMillis 10),
          .started true, .exited (some 3) false, .backingOff (.ofMillis 20),
          .stopped] := by
  intro source
  have baseFits : Duration.ofMillis 10 ≤ Duration.longest := by decide +kernel
  have ceilingFits : Duration.ofMillis 40 ≤ Duration.longest := by decide +kernel
  have going : .cancelled ∉ signalsOf unsteadyRuns := by decide
  obtain ⟨told, -, -, stops, -⟩ :=
    restarts_on_schedule baseFits ceilingFits (.ofMillis 1000) (signalsOf unsteadyRuns)
  refine ⟨baseFits, ceilingFits, going, by decide, ?_⟩
  rw [stops going, told]
  decide +kernel

end Source

end LiveChat.Ingest
