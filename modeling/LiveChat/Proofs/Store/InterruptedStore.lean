import LiveChat.Proofs.Store.OffsetFile

/-!
# Interrupted writing of the position file

A position is stored in three steps, and a process can stop, or be refused, at each of them. A step
that has only been begun leaves the position file alone (`OffsetDisk.Begins.target_eq`), and so do
all steps but the last when they are complete. So the file is the old one unless everything was done
(`OffsetDisk.Interrupted.target_eq_or`), and what is read from it is the position from before or the
one that was to be stored (`OffsetDisk.store_is_crash_safe`). This goes on through any number of
attempts (`OffsetDisk.Attempts.load_eq_or`), and none of them stands in the way of the next one
(`OffsetDisk.Interrupted.accepts`).
-/

namespace LiveChat

/-- A file can be put here, in the place of another one if need be. -/
def FileState.takesFile : FileState → Bool
  | .absent => true
  | .data _ => true
  | _ => false

namespace Store.OffsetDisk

/-- What a disk can be like when a step has been begun and is not complete. A first part of the
bytes may have been written. A directory is made, and a file is moved, at once or not at all. -/
inductive Begins (disk : OffsetDisk) : OffsetStep → OffsetDisk → Prop where
  | untouched (step : OffsetStep) : Begins disk step disk
  | written {bytes : ByteArray} {left : OffsetDisk} (count : Nat)
      (partly : disk.step (.writeTemporary (bytes.extract 0 count)) = .ok left) :
      Begins disk (.writeTemporary bytes) left

/-- What a disk can be like when some steps are complete, and the next one has been begun if there
is another one. -/
inductive Interrupted : List OffsetStep → OffsetDisk → OffsetDisk → Prop where
  | complete {disk : OffsetDisk} : Interrupted [] disk disk
  | begun {disk left : OffsetDisk} {step : OffsetStep} {rest : List OffsetStep}
      (begins : disk.Begins step left) : Interrupted (step :: rest) disk left
  | later {disk changed left : OffsetDisk} {step : OffsetStep} {rest : List OffsetStep}
      (succeeds : disk.step step = .ok changed) (interrupted : Interrupted rest changed left) :
      Interrupted (step :: rest) disk left

variable {disk changed left : OffsetDisk} {position : Position}

theorem step_makeDirectory_eq_ok :
    disk.step .makeDirectory = .ok changed ↔ disk.hasDirectory = true ∧ disk = changed := by
  rw [step]
  cases disk.hasDirectory <;> simp

theorem step_writeTemporary_eq_ok {bytes : ByteArray} :
    disk.step (.writeTemporary bytes) = .ok changed ↔
      disk.temporary.takesFile = true ∧ { disk with temporary := .data bytes } = changed := by
  obtain ⟨hasDirectory, target, temporary⟩ := disk
  cases temporary <;> simp [step, FileState.takesFile]

theorem step_moveIntoPlace_of_ok (succeeds : disk.step .moveIntoPlace = .ok changed) :
    { disk with target := disk.temporary, temporary := .absent } = changed := by
  obtain ⟨hasDirectory, target, temporary⟩ := disk
  cases temporary <;> cases target <;> cases succeeds <;> rfl

/-- Only a file that is moved into place changes the position file. -/
theorem target_of_step {step : OffsetStep} (stays : step ≠ .moveIntoPlace)
    (succeeds : disk.step step = .ok changed) : changed.target = disk.target := by
  cases step with
  | makeDirectory =>
      obtain ⟨-, rfl⟩ := step_makeDirectory_eq_ok.mp succeeds
      rfl
  | writeTemporary bytes =>
      obtain ⟨-, rfl⟩ := step_writeTemporary_eq_ok.mp succeeds
      rfl
  | moveIntoPlace => exact absurd rfl stays

theorem Begins.target_eq {step : OffsetStep} (begins : disk.Begins step left) :
    left.target = disk.target := by
  cases begins with
  | untouched => rfl
  | written count partly =>
      refine target_of_step ?_ partly
      nofun

/-- The position file is the old one, unless all steps are complete. -/
theorem Interrupted.target_eq_or (front : List OffsetStep) (stays : .moveIntoPlace ∉ front)
    (interrupted : Interrupted (front ++ [.moveIntoPlace]) disk left) :
    left.target = disk.target ∨ run (front ++ [.moveIntoPlace]) disk = (.ok (), left) := by
  induction front generalizing disk with
  | nil =>
      cases interrupted with
      | begun begins => exact .inl begins.target_eq
      | later succeeds rest =>
          cases rest
          right
          rw [List.nil_append, run, succeeds]
          rfl
  | cons step rest ih =>
      rw [List.mem_cons, not_or] at stays
      cases interrupted with
      | begun begins => exact .inl begins.target_eq
      | later succeeds interrupted =>
          have kept := target_of_step (Ne.symm stays.1) succeeds
          rcases ih stays.2 interrupted with same | done
          · exact .inl (same.trans kept)
          · right
            rw [List.cons_append, run, succeeds]
            exact done

theorem Interrupted.load_eq_or (interrupted : Interrupted (storeSteps position) disk left)
    (storable : position.IsStorable) :
    left.load = disk.load ∨ left.load = some position ∧ disk.store position = (.ok (), left) := by
  rcases interrupted.target_eq_or [.makeDirectory, .writeTemporary _] (by simp) with
    same | done
  · exact .inl (congrArg loadOffset same)
  · have read := load_store_of_ok (congrArg Prod.fst done) storable
    rw [show disk.store position = _ from done] at read
    exact .inr ⟨read, done⟩

/-- A run that is refused leaves what an interrupted one can leave. -/
theorem interrupted_run (steps : List OffsetStep) (disk : OffsetDisk) :
    Interrupted steps disk (run steps disk).2 := by
  induction steps generalizing disk with
  | nil => exact .complete
  | cons step rest ih =>
      rw [run]
      cases outcome : disk.step step with
      | ok changed => exact .later outcome (ih changed)
      | error reason => exact .begun (.untouched step)

/-- A position can be stored where files can be put. -/
theorem store_eq_ok_iff (disk : OffsetDisk) (position : Position) :
    (disk.store position).1 = .ok () ↔
      disk.hasDirectory = true ∧ disk.temporary.takesFile = true ∧
        disk.target.takesFile = true := by
  obtain ⟨hasDirectory, target, temporary⟩ := disk
  cases hasDirectory <;> cases temporary <;> cases target <;>
    simp [store, storeSteps, run, step, FileState.takesFile]

theorem accepts_iff (disk : OffsetDisk) :
    disk.Accepts ↔ disk.hasDirectory = true ∧ disk.temporary.takesFile = true ∧
      disk.target.takesFile = true :=
  ⟨fun accepts => (disk.store_eq_ok_iff .origin).mp (accepts .origin),
    fun takes position => (disk.store_eq_ok_iff position).mpr takes⟩

theorem Accepts.step (accepts : disk.Accepts) {step : OffsetStep}
    (succeeds : disk.step step = .ok changed) : changed.Accepts := by
  obtain ⟨hasDirectory, temporary, target⟩ := (disk.accepts_iff).mp accepts
  rw [accepts_iff]
  cases step with
  | makeDirectory =>
      obtain ⟨-, rfl⟩ := step_makeDirectory_eq_ok.mp succeeds
      exact ⟨hasDirectory, temporary, target⟩
  | writeTemporary bytes =>
      obtain ⟨-, rfl⟩ := step_writeTemporary_eq_ok.mp succeeds
      exact ⟨hasDirectory, rfl, target⟩
  | moveIntoPlace =>
      rw [← step_moveIntoPlace_of_ok succeeds]
      exact ⟨hasDirectory, rfl, temporary⟩

/-- Whatever an interrupted run leaves, it is not in the way of the next one. -/
theorem Interrupted.accepts {steps : List OffsetStep} (interrupted : Interrupted steps disk left)
    (accepts : disk.Accepts) : left.Accepts := by
  induction interrupted with
  | complete => exact accepts
  | begun begins =>
      cases begins with
      | untouched => exact accepts
      | written count partly => exact accepts.step partly
  | later succeeds _ ih => exact ih (accepts.step succeeds)

/-- **The position file outlives a crash.** A position can be stored where files can be put. It is
then what is read, and no second file is left. A refusal changes nothing of what is read. And
wherever the steps are interrupted, the old position is read, or the new one if all of them are
complete. -/
theorem store_is_crash_safe (disk : OffsetDisk) (position : Position)
    (storable : position.IsStorable) :
    ((disk.store position).1 = .ok () ↔
      disk.hasDirectory = true ∧ disk.temporary.takesFile = true ∧
        disk.target.takesFile = true) ∧
    ((disk.store position).1 = .ok () →
      (disk.store position).2.load = some position ∧
        (disk.store position).2.temporary = .absent) ∧
    ((disk.store position).1 ≠ .ok () → (disk.store position).2.load = disk.load) ∧
    ∀ left, Interrupted (storeSteps position) disk left →
      left.load = disk.load ∨
        left.load = some position ∧ disk.store position = (.ok (), left) := by
  refine ⟨disk.store_eq_ok_iff position, ?_, ?_,
    fun left interrupted => interrupted.load_eq_or storable⟩
  · intro stored
    refine ⟨load_store_of_ok stored storable, ?_⟩
    rw [store_of_ok stored]
  · intro refused
    rcases (interrupted_run _ disk).load_eq_or storable with same | ⟨-, done⟩
    · exact same
    · exact absurd (congrArg Prod.fst done) refused

/-- The greatest timestamp, with the least number. -/
def extreme : Position := ⟨2 ^ 63 - 1, -2 ^ 63⟩

/-- An old position, and the remains of an earlier attempt. -/
def littered : OffsetDisk :=
  ⟨true, .data (offsetText ⟨5, 2⟩).toUTF8, .data (offsetText ⟨9, 9⟩).toUTF8⟩

/-- The old position, and some bytes of the new one. -/
def torn : OffsetDisk :=
  { littered with temporary := .data ((offsetText extreme).toUTF8.extract 0 3) }

theorem store_is_crash_safe_torn :
    Interrupted (storeSteps extreme) littered torn ∧ torn.load = some ⟨5, 2⟩ ∧
      (torn.store extreme).1 = .ok () ∧ (torn.store extreme).2.load = some extreme := by
  have storable : extreme.IsStorable := ⟨by decide, by decide⟩
  have interrupted : Interrupted (storeSteps extreme) littered torn :=
    .later rfl (.begun (.written 3 rfl))
  obtain ⟨-, -, -, recovers⟩ := store_is_crash_safe littered extreme storable
  obtain ⟨accepted, stored, -, -⟩ := store_is_crash_safe torn extreme storable
  have stores := accepted.mpr ⟨rfl, rfl, rfl⟩
  refine ⟨interrupted, ?_, stores, (stored stores).1⟩
  rcases recovers torn interrupted with old | ⟨-, done⟩
  · exact old.trans (loadOffset_offsetText ⟨by decide, by decide⟩)
  · cases congrArg (fun result => result.2.temporary) done

/-- What a disk can be like after attempts to store positions, each of which may have been
interrupted. -/
inductive Attempts : List Position → OffsetDisk → OffsetDisk → Prop where
  | none {disk : OffsetDisk} : Attempts [] disk disk
  | next {disk changed left : OffsetDisk} {position : Position} {rest : List Position}
      (interrupted : Interrupted (storeSteps position) disk changed)
      (attempts : Attempts rest changed left) : Attempts (position :: rest) disk left

theorem Attempts.accepts {positions : List Position} (attempts : Attempts positions disk left)
    (accepts : disk.Accepts) : left.Accepts := by
  induction attempts with
  | none => exact accepts
  | next interrupted _ ih => exact ih (interrupted.accepts accepts)

/-- After any attempts, what is read is what was read before, or one of the positions. -/
theorem Attempts.load_eq_or {positions : List Position} (attempts : Attempts positions disk left)
    (storable : ∀ position ∈ positions, position.IsStorable) :
    left.load = disk.load ∨ ∃ position ∈ positions, left.load = some position := by
  induction attempts with
  | none => exact .inl rfl
  | @next disk changed left position rest interrupted _ ih =>
      obtain ⟨first, others⟩ := List.forall_mem_cons.mp storable
      rcases ih others with same | ⟨later, member, found⟩
      · rcases interrupted.load_eq_or first with old | ⟨new, -⟩
        · exact .inl (same.trans old)
        · exact .inr ⟨position, List.mem_cons_self, same.trans new⟩
      · exact .inr ⟨later, List.mem_cons_of_mem _ member, found⟩

end Store.OffsetDisk

end LiveChat
