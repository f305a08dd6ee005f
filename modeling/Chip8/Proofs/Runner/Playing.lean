import Chip8.Proofs.Machine.Atomicity
import Chip8.Proofs.Machine.Timers
import Chip8.Proofs.Runner.Presenting

/-!
# The instructions of a frame

Whether they come in a frame or one at a time, instructions leave alone the keypad, which was read
before the first of them, and the device that it was read from (`SameKeys`). The first one that is
stopped ends them all. The machine is left as this instruction found it, and the error is the fault
that stops it (`stoppedBy_of_frame`, `stoppedBy_of_singleStep`).
-/

namespace Chip8

/-- No instruction presses or releases a key. -/
theorem Machine.keypad_of_attempt {m m' : Machine} {result : Except Fault Machine}
    (hresult : result = m.step ∨ result = m.cycle) (h : result = .ok m') :
    m'.keypad = m.keypad := by
  obtain ⟨ticked, hticked, rfl⟩ := exists_eq_bind hresult
  obtain ⟨i, -, hexecute⟩ := exists_of_bind_eq_ok h
  exact (keypad_of_execute hexecute).trans (congrArg Machine.keypad hticked :)

namespace Runner

variable {κ ω : Type} {r : Runner κ ω} {halt : Halt κ ω}

/-! ### The keys -/

/-- The keypad and the device that it is read from are the same for `r` and `s`. -/
structure SameKeys (r s : Runner κ ω) : Prop where
  keypad : s.machine.keypad = r.machine.keypad
  keys : s.keys = r.keys

namespace SameKeys

variable {s t : Runner κ ω}

theorem refl (r : Runner κ ω) : SameKeys r r :=
  ⟨rfl, rfl⟩

theorem trans (h : SameKeys r s) (h' : SameKeys s t) : SameKeys r t :=
  ⟨h'.keypad.trans h.keypad, h'.keys.trans h.keys⟩

end SameKeys

theorem sameKeys_attempt {result : Except Fault Machine}
    (hresult : result = r.machine.step ∨ result = r.machine.cycle) :
    SameKeys r (Halt.settle (r.noteState.attempt result)).1 := by
  obtain ⟨journal, hnote⟩ := exists_noteState_eq r
  rw [hnote]
  cases result with
  | ok m => exact ⟨Machine.keypad_of_attempt hresult rfl, rfl⟩
  | error f => exact ⟨rfl, rfl⟩

theorem sameKeys_executeMany (r : Runner κ ω) (n : ℕ) :
    SameKeys r (Halt.settle (r.executeMany n)).1 := by
  induction n generalizing r with
  | zero => exact .refl r
  | succ n ih =>
    have hpaid : SameKeys r { r with budget := r.budget.spend } := ⟨rfl, rfl⟩
    obtain ⟨result, hone, hresult⟩ := exists_executeOne_eq { r with budget := r.budget.spend }
    rw [executeMany_succ, hone]
    exact Halt.settle_bind_of_trans (R := SameKeys) SameKeys.trans
      (hpaid.trans (sameKeys_attempt hresult)) fun s _ => ih s

theorem sameKeys_tickFrame (r : Runner κ ω) : SameKeys r r.tickFrame := by
  rw [tickFrame]
  cases r.config.timerMode with
  | coupled => exact .refl r
  | decoupled => exact ⟨rfl, rfl⟩

theorem sameKeys_play (r : Runner κ ω) : SameKeys r (Halt.settle r.play).1 := by
  have howe : SameKeys r r.owe := by
    rw [owe]
    exact ⟨rfl, rfl⟩
  rw [play]
  exact Halt.settle_map_of_trans (R := SameKeys) SameKeys.trans
    (howe.trans (sameKeys_executeMany _ _)) sameKeys_tickFrame

theorem sameKeys_updateOutput [OutputDevice ω] (r : Runner κ ω) : SameKeys r r.updateOutput := by
  rw [updateOutput_eq]
  exact ⟨rfl, rfl⟩

/-! ### Where instructions stop -/

theorem stoppedBy_of_attempt {result : Except Fault Machine}
    (hresult : result = r.machine.step ∨ result = r.machine.cycle)
    (h : r.noteState.attempt result = .error halt) :
    ∃ f, halt.error = .fault f ∧ halt.runner.machine.StoppedBy f := by
  have hleft := machine_of_attempt h
  cases result with
  | ok m => cases h
  | error f =>
    -- the machine is the one that the attempt was made on, with its timers put back
    refine ⟨f, ?_, ?_⟩
    · cases h
      rfl
    · rw [hleft]
      rcases hresult with hstep | hcycle
      · exact Machine.step_eq_error_iff.1 hstep.symm
      · exact Machine.cycle_eq_error_iff.1 hcycle.symm

theorem stoppedBy_of_executeMany {n : ℕ} (h : r.executeMany n = .error halt) :
    ∃ f, halt.error = .fault f ∧ halt.runner.machine.StoppedBy f := by
  induction n generalizing r with
  | zero => cases h
  | succ n ih =>
    obtain ⟨result, hone, hresult⟩ := exists_executeOne_eq { r with budget := r.budget.spend }
    rw [executeMany_succ, hone] at h
    cases hx : { r with budget := r.budget.spend }.noteState.attempt result with
    | ok next =>
      rw [hx] at h
      exact ih h
    | error halt' =>
      rw [hx] at h
      cases h
      exact stoppedBy_of_attempt hresult hx

/-! ### Frames and single steps -/

section

variable [KeySource κ]

theorem sameKeys_frameWork (r : Runner κ ω) :
    SameKeys r.pollKeys (Halt.settle r.frameWork).1 := by
  rw [frameWork]
  split
  · exact .refl _
  · exact sameKeys_play _

theorem sameKeys_stepWork (r : Runner κ ω) : SameKeys r.pollKeys (Halt.settle r.stepWork).1 :=
  sameKeys_attempt (.inl rfl)

variable [OutputDevice ω]

/-- A frame reads the keys and leaves them so, whether or not it fails. -/
theorem sameKeys_frame (r : Runner κ ω) : SameKeys r.pollKeys (Halt.settle r.frame).1 := by
  rw [frame_eq]
  exact Halt.settle_map_of_trans (R := SameKeys) SameKeys.trans (sameKeys_frameWork r)
    sameKeys_updateOutput

/-- So does a single step. -/
theorem sameKeys_singleStep (r : Runner κ ω) :
    SameKeys r.pollKeys (Halt.settle r.singleStep).1 := by
  rw [singleStep_eq]
  exact Halt.settle_map_of_trans (R := SameKeys) SameKeys.trans (sameKeys_stepWork r)
    sameKeys_updateOutput

/-- A frame fails only where one of its instructions is stopped, and leaves the machine as this
instruction found it. -/
theorem stoppedBy_of_frame (h : r.frame = .error halt) :
    ∃ f, halt.error = .fault f ∧ halt.runner.machine.StoppedBy f := by
  rw [frame_eq, frameWork] at h
  have hwork := eq_error_of_map_eq_error h
  split at hwork
  · cases hwork
  · rw [play] at hwork
    exact stoppedBy_of_executeMany (eq_error_of_map_eq_error hwork)

/-- So does a single step. -/
theorem stoppedBy_of_singleStep (h : r.singleStep = .error halt) :
    ∃ f, halt.error = .fault f ∧ halt.runner.machine.StoppedBy f := by
  rw [singleStep_eq] at h
  exact stoppedBy_of_attempt (r := r.pollKeys) (.inl rfl) (eq_error_of_map_eq_error h)

/-- A single step that succeeds ticks the timers once and executes the instruction at the program
counter, and nothing else but telling the output device. -/
theorem exists_of_singleStep {r' : Runner κ ω} (h : r.singleStep = .ok r') :
    ∃ i m, r.pollKeys.machine.fetch = .ok i ∧ r.pollKeys.machine.tick.execute i = .ok m ∧
      r.executed .singleStep = [i] ∧ r'.machine = m.markDrawn := by
  rw [singleStep_eq] at h
  obtain ⟨s, hwork, rfl⟩ := exists_of_map_eq_ok h
  obtain ⟨journal, hnote⟩ := exists_noteState_eq r.pollKeys
  cases hstep : r.pollKeys.machine.step with
  | error f =>
    rw [hstep] at hwork
    cases hwork
  | ok m =>
    have hexecuted : r.executed .singleStep
        = (Instruction.decode? r.pollKeys.machine.opcode).toList := by
      rw [executed, stepWork, hwork]
    rw [hstep, hnote] at hwork
    rw [Machine.step_eq_bind] at hstep
    obtain ⟨i, hfetch, hexecute⟩ := exists_of_bind_eq_ok hstep
    refine ⟨i, m, hfetch, hexecute, ?_, ?_⟩
    · rw [hexecuted, Machine.decode?_of_fetch hfetch]
      rfl
    · cases hwork
      exact machine_updateOutput _

end

end Runner

end Chip8
