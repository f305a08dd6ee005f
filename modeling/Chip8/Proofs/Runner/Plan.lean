import Chip8.Proofs.Runner.Sequencing
import Mathlib.Logic.Function.Iterate

/-!
# What a runner goes by

Apart from its machine and its devices, a runner goes by its settings, the program that a reset
loads again, the instructions owed and whether it is paused: this is its `Plan`. Executing an
instruction changes none of it and loading a program nothing but the program, whether they succeed
or not.

Only frames pay for instructions, and for each one before it is attempted. So a frame leaves owed
what it has not attempted (`plan_frame_of_not_paused`), also when an instruction is stopped, which
is the last one that it attempts then.
-/

namespace Chip8

/-- What a runner goes by, whatever its machine and its devices do. -/
structure Plan where
  /-- The settings. -/
  config : Config
  /-- The program that a reset loads again. -/
  program : List UInt8
  /-- The instructions owed. -/
  budget : Allowance
  /-- Whether frames execute nothing. -/
  paused : Bool

/-- The same with another number of instructions owed. -/
def Plan.owing (p : Plan) (b : Allowance) : Plan :=
  ⟨p.config, p.program, b, p.paused⟩

-- This is used as an equation: to compare the two numbers by evaluation is to round.
theorem Plan.owing_owing (p : Plan) (b b' : Allowance) : (p.owing b).owing b' = p.owing b' :=
  rfl

namespace Runner

variable {κ ω : Type} {r r' : Runner κ ω}

/-! ### The plan of a runner -/

/-- The plan of a runner. -/
def plan (r : Runner κ ω) : Plan :=
  ⟨r.config, r.program, r.budget, r.paused⟩

theorem plan_settle_map {f : Runner κ ω → Runner κ ω} (hf : ∀ r, (f r).plan = r.plan)
    (x : Except (Halt κ ω) (Runner κ ω)) :
    (Halt.settle (x.map f)).1.plan = (Halt.settle x).1.plan := by
  cases x with
  | ok r' => exact hf r'
  | error halt => rfl

theorem plan_noteState (r : Runner κ ω) : r.noteState.plan = r.plan := by
  obtain ⟨journal, h⟩ := exists_noteState_eq r
  rw [h]
  rfl

theorem plan_attempt (r : Runner κ ω) (result : Except Fault Machine) :
    (Halt.settle (r.attempt result)).1.plan = r.plan := by
  cases result with
  | ok machine => rfl
  | error f => rfl

theorem plan_executeOne (r : Runner κ ω) : (Halt.settle r.executeOne).1.plan = r.plan := by
  rw [executeOne]
  cases r.config.timerMode with
  | coupled => exact (plan_attempt _ _).trans (plan_noteState r)
  | decoupled => exact (plan_attempt _ _).trans (plan_noteState r)

theorem plan_tickFrame (r : Runner κ ω) : r.tickFrame.plan = r.plan := by
  rw [tickFrame]
  cases r.config.timerMode with
  | coupled => rfl
  | decoupled => rfl

theorem plan_updateOutput [OutputDevice ω] (r : Runner κ ω) : r.updateOutput.plan = r.plan := by
  have hsound : r.updateSound.plan = r.plan := by
    rw [updateSound]
    split
    · rfl
    · rfl
  rw [updateOutput, updateScreen]
  split
  · exact hsound
  · exact hsound

/-! ### Attempts -/

/-- How many of `n` instructions are attempted: all of them, unless one is stopped, which is the
last one then. -/
def attemptsOf (r : Runner κ ω) : ℕ → ℕ
  | 0 => 0
  | n + 1 =>
    match { r with budget := r.budget.spend }.executeOne with
    | .ok r => r.attemptsOf n + 1
    | .error _ => 1

/-- An instruction is attempted iff those before it are not stopped. -/
theorem lt_attemptsOf_iff {k n : ℕ} :
    k < r.attemptsOf n ↔ k < n ∧ ∃ r', r.executeMany k = .ok r' := by
  induction n generalizing r k with
  | zero => exact ⟨fun h => absurd h (Nat.not_lt_zero k), fun h => absurd h.1 (Nat.not_lt_zero k)⟩
  | succ n ih =>
    rw [attemptsOf]
    cases k with
    | zero =>
      have hzero : ∃ r', r.executeMany 0 = .ok r' := ⟨r, rfl⟩
      split
      · simp only [hzero, Nat.succ_pos, and_self]
      · simp only [hzero, Nat.succ_pos, and_self]
    | succ k =>
      rw [executeMany_succ]
      cases { r with budget := r.budget.spend }.executeOne with
      | ok next =>
        rw [Nat.succ_lt_succ_iff, Nat.succ_lt_succ_iff]
        exact ih
      | error halt =>
        refine ⟨fun h => absurd (Nat.lt_of_succ_lt_succ h) (Nat.not_lt_zero k), ?_⟩
        rintro ⟨-, r', h⟩
        cases h

theorem attemptsOf_of_ok {n : ℕ} (h : r.executeMany n = .ok r') : r.attemptsOf n = n := by
  induction n generalizing r with
  | zero => rfl
  | succ n ih =>
    rw [executeMany_succ] at h
    obtain ⟨next, hone, hrest⟩ := exists_of_bind_eq_ok h
    simp only [attemptsOf, hone, ih hrest]

/-- What is attempted is paid for, whether or not it is stopped. -/
theorem plan_executeMany (r : Runner κ ω) (n : ℕ) :
    (Halt.settle (r.executeMany n)).1.plan
      = r.plan.owing (Allowance.spend^[r.attemptsOf n] r.budget) := by
  induction n generalizing r with
  | zero => rfl
  | succ n ih =>
    have hone : (Halt.settle { r with budget := r.budget.spend }.executeOne).1.plan
        = r.plan.owing r.budget.spend := plan_executeOne _
    rw [executeMany_succ, attemptsOf]
    cases hx : { r with budget := r.budget.spend }.executeOne with
    | error halt =>
      rw [hx] at hone
      rw [Function.iterate_one]
      exact hone
    | ok next =>
      rw [hx] at hone
      have hplan : next.plan = r.plan.owing r.budget.spend := hone
      have hbudget : next.budget = r.budget.spend := congrArg Plan.budget hplan
      rw [Function.iterate_succ_apply, ← hbudget]
      exact (ih next).trans (by rw [hplan, Plan.owing_owing])

/-! ### Programs and edits -/

theorem load_of_le (r : Runner κ ω) {program : List UInt8} (h : program.length ≤ programLimit) :
    ∃ r', r.load program = .ok r' ∧ r'.plan = ⟨r.config, program, r.budget, r.paused⟩ := by
  rw [load, Machine.load, Memory.load, if_pos h]
  exact ⟨_, rfl, rfl⟩

theorem load_of_lt (r : Runner κ ω) {program : List UInt8} (h : programLimit < program.length) :
    ∃ e, r.load program = .error ⟨e, r⟩ := by
  rw [load, Machine.load, Memory.load, if_neg (Nat.not_le_of_lt h)]
  exact ⟨_, rfl⟩

theorem plan_edit (r : Runner κ ω) (operation : Operation) :
    (Halt.settle (r.edit operation)).1.plan = r.plan := by
  rw [edit]
  cases (r.machine.perform operation).error? with
  | none => rfl
  | some error => rfl

/-! ### Frames -/

variable [KeySource κ]

/-- How many instructions a frame attempts. If none is stopped, they are all executed, and else all
but the last one. -/
def attempts (r : Runner κ ω) : ℕ :=
  if r.paused then 0 else r.pollKeys.owe.attemptsOf r.owe.budget.whole

theorem attempts_of_paused (h : r.paused = true) : r.attempts = 0 :=
  if_pos h

theorem attempts_of_not_paused (h : r.paused = false) :
    r.attempts = r.pollKeys.owe.attemptsOf r.owe.budget.whole := by
  rw [attempts, h]
  exact if_neg Bool.false_ne_true

theorem plan_owe_pollKeys (r : Runner κ ω) : r.pollKeys.owe.plan = r.plan.owing r.owe.budget := by
  rw [← budget_owe_pollKeys, owe]
  rfl

variable [OutputDevice ω]

theorem plan_frame_of_paused (h : r.paused = true) : (Halt.settle r.frame).1.plan = r.plan := by
  rw [frame_of_paused h]
  exact plan_updateOutput _

/-- A frame pays for what it attempts, and changes nothing else of the plan. -/
theorem plan_frame_of_not_paused (h : r.paused = false) :
    (Halt.settle r.frame).1.plan
      = r.plan.owing (Allowance.spend^[r.attempts] r.owe.budget) := by
  rw [frame_of_not_paused h, play, plan_settle_map plan_updateOutput,
    plan_settle_map plan_tickFrame, plan_executeMany, plan_owe_pollKeys, budget_owe_pollKeys,
    ← attempts_of_not_paused h, Plan.owing_owing]

/-- A frame that is not stopped attempts all that is owed. -/
theorem attempts_of_frame (hpaused : r.paused = false) (h : r.frame = .ok r') :
    r.attempts = r.owe.budget.whole := by
  rw [frame_of_not_paused hpaused] at h
  obtain ⟨played, hplay, -⟩ := exists_of_map_eq_ok h
  rw [play] at hplay
  obtain ⟨executed, hmany, -⟩ := exists_of_map_eq_ok hplay
  rw [attempts_of_not_paused hpaused, ← budget_owe_pollKeys, attemptsOf_of_ok hmany]

/-- A frame that is not stopped leaves nothing owed but the fraction of an instruction. -/
theorem plan_of_frame (hpaused : r.paused = false) (h : r.frame = .ok r') :
    r'.plan = r.plan.owing (Allowance.spend^[r.owe.budget.whole] r.owe.budget) := by
  have hplan := plan_frame_of_not_paused hpaused
  rwa [h, attempts_of_frame hpaused h] at hplan

theorem plan_singleStep (r : Runner κ ω) : (Halt.settle r.singleStep).1.plan = r.plan := by
  rw [singleStep_eq, plan_settle_map plan_updateOutput, plan_attempt, plan_noteState]
  rfl

end Runner

end Chip8
