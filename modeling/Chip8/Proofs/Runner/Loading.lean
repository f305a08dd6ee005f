import Chip8.Proofs.Memory
import Chip8.Proofs.Runner.FreshStart

/-!
# Loading a program

A program is loaded whole or not at all: if it fits, it stands in memory from `programStart` on and
nothing else has changed, and if not, nothing has changed whatsoever (`perform_load_of_fits`,
`perform_load_of_not_fits`). A runner loads programs and files as its machine does
(`settle_load`, `settle_loadFile`), and remembers a program only once it has been loaded.

So the program that a runner remembers is the last one that it has loaded (`program_performAll`, by
induction on what a single operation makes it remember, `program_perform`). It has fitted into
memory before, and that does not depend on what is there, so a reset always succeeds.
-/

namespace Chip8

namespace RunnerOperation

/-- Whether an operation loads a program or a file into the runner. -/
def isLoad : RunnerOperation → Bool
  | load _ | loadFile .. => true
  | _ => false

/-- The program that an operation is to load into the runner, if there is one. -/
def program? : RunnerOperation → Option (List UInt8)
  | load program | loadFile _ (.ok program) => some program
  | _ => none

end RunnerOperation

namespace Machine

theorem perform_load_of_fits (m : Machine) {program : List UInt8}
    (h : program.length ≤ programLimit) :
    ∃ memory, m.perform (.load program) = ⟨{ m with memory }, [.loaded program.length], none⟩ ∧
      Memory.Placed program m.memory memory := by
  obtain ⟨memory, hload, hplaced⟩ := m.memory.load_of_fits h
  refine ⟨memory, ?_, hplaced⟩
  rw [perform, load, hload]
  rfl

theorem perform_load_of_not_fits (m : Machine) {program : List UInt8}
    (h : programLimit < program.length) :
    m.perform (.load program)
      = ⟨m, [], some (.load (.tooLarge program.length programLimit))⟩ := by
  rw [perform, load, m.memory.load_of_not_fits h]
  rfl

end Machine

namespace Runner

variable {κ ω : Type} {r : Runner κ ω}

/-! ### The machine of a runner -/

/-- A runner loads a program as its machine does. -/
theorem settle_load (r : Runner κ ω) (program : List UInt8) :
    let outcome := r.machine.perform (.load program)
    (Halt.settle (r.load program)).1.machine = outcome.machine ∧
      (Halt.settle (r.load program)).2 = outcome.error? := by
  rw [load, Machine.perform]
  cases r.machine.load program with
  | ok machine => exact ⟨rfl, rfl⟩
  | error e => exact ⟨rfl, rfl⟩

/-- So it does a file. -/
theorem settle_loadFile (r : Runner κ ω) (path : String)
    (contents : Except ReadError (List UInt8)) :
    let outcome := r.machine.perform (.loadFile path contents)
    (Halt.settle (r.loadFile path contents)).1.machine = outcome.machine ∧
      (Halt.settle (r.loadFile path contents)).2 = outcome.error? := by
  cases contents with
  | ok program => exact settle_load (r.note (.executing path)) program
  | error reason => exact ⟨rfl, rfl⟩

/-! ### The program that a runner remembers -/

theorem program_load (r : Runner κ ω) (program : List UInt8) :
    (Halt.settle (r.load program)).1.program
      = if (Halt.settle (r.load program)).2.isNone then program else r.program := by
  rw [load]
  cases r.machine.load program with
  | ok machine => rfl
  | error e => rfl

theorem program_reset (r : Runner κ ω) : (Halt.settle r.reset).1.program = r.program := by
  have hload := program_load r.cleared r.program
  rw [reset_eq]
  cases hx : r.cleared.load r.program with
  | ok loaded =>
    rw [hx] at hload
    exact hload
  | error halt =>
    rw [hx] at hload
    exact hload

/-- What fails to be loaded leaves the machine and the remembered program alone. -/
theorem of_load_eq_error {program : List UInt8} {halt : Halt κ ω}
    (h : r.load program = .error halt) :
    halt.runner.machine = r.machine ∧ halt.runner.program = r.program := by
  rw [load] at h
  cases hm : r.machine.load program with
  | ok machine =>
    rw [hm] at h
    cases h
  | error e =>
    rw [hm] at h
    cases h
    exact ⟨rfl, rfl⟩

section

variable [KeySource κ] [OutputDevice ω]

theorem of_perform_load_eq_error {op : RunnerOperation} {halt : Halt κ ω} (hop : op.isLoad)
    (h : r.perform op = .error halt) :
    halt.runner.machine = r.machine ∧ halt.runner.program = r.program := by
  cases op with
  | load program => exact of_load_eq_error h
  | loadFile path contents =>
    cases contents with
    | ok program => exact of_load_eq_error (r := r.note (.executing path)) h
    | error reason =>
      cases h
      exact ⟨rfl, rfl⟩
  | _ => cases hop

theorem program_frame (r : Runner κ ω) : (Halt.settle r.frame).1.program = r.program :=
  congrArg Plan.program (plan_frame r)

theorem program_run (r : Runner κ ω) (n : ℕ) : (Halt.settle (r.run n)).1.program = r.program := by
  induction n generalizing r with
  | zero => rfl
  | succ n ih =>
    have hframe := program_frame r
    rw [run_succ]
    cases hx : r.frame with
    | ok next =>
      rw [hx] at hframe
      exact (ih next).trans hframe
    | error halt =>
      rw [hx] at hframe
      exact hframe

/-- The program that an operation loads, unless it fails. -/
def loadedBy (r : Runner κ ω) (op : RunnerOperation) : Option (List UInt8) :=
  if (Halt.settle (r.perform op)).2.isNone then op.program? else none

/-- The programs that operations one after the other load, without those that fail to be loaded. -/
def loaded (r : Runner κ ω) : List RunnerOperation → List (List UInt8)
  | [] => []
  | op :: rest => (r.loadedBy op).toList ++ (Halt.settle (r.perform op)).1.loaded rest

theorem getD_loadedBy (r : Runner κ ω) {op : RunnerOperation} (h : op.program? = none) :
    (r.loadedBy op).getD r.program = r.program := by
  rw [loadedBy, h, ite_self]
  rfl

/-- An operation makes a runner remember what it loads, and leaves it alone otherwise. -/
theorem program_perform (r : Runner κ ω) (op : RunnerOperation) :
    (Halt.settle (r.perform op)).1.program = (r.loadedBy op).getD r.program := by
  have hload : ∀ (r : Runner κ ω) (program : List UInt8),
      (Halt.settle (r.load program)).1.program
        = (if (Halt.settle (r.load program)).2.isNone then some program else none).getD
          r.program := by
    intro r program
    rw [program_load, apply_ite (Option.getD · r.program), Option.getD_some, Option.getD_none]
  cases op with
  | load program => exact hload r program
  | loadFile path contents =>
    cases contents with
    | ok program => exact hload (r.note (.executing path)) program
    | error reason => rfl
  | frame => exact (program_frame r).trans (getD_loadedBy r rfl).symm
  | run frames => exact (program_run r frames).trans (getD_loadedBy r rfl).symm
  | singleStep =>
    exact (congrArg Plan.program (plan_singleStep r)).trans (getD_loadedBy r rfl).symm
  | togglePause => rfl
  | reset => exact (program_reset r).trans (getD_loadedBy r rfl).symm
  | edit operation =>
    exact (congrArg Plan.program (plan_edit r operation)).trans (getD_loadedBy r rfl).symm

/-- After a history, the program that a runner remembers is the last one that it has loaded. -/
theorem program_performAll (r : Runner κ ω) (ops : List RunnerOperation) :
    (r.performAll ops).program = (r.loaded ops).getLast?.getD r.program := by
  induction ops generalizing r with
  | nil => rfl
  | cons op rest ih =>
    have hrest := ih (Halt.settle (r.perform op)).1
    rw [program_perform] at hrest
    rw [loaded, List.getLast?_append]
    refine hrest.trans ?_
    -- what the rest loads comes last, and what the first operation loads only if there is no such
    cases ((Halt.settle (r.perform op)).1.loaded rest).getLast? with
    | some program => rfl
    | none =>
      cases r.loadedBy op with
      | some program => rfl
      | none => rfl

/-- A machine loads a program of at most 3584 bytes whole, and changes in nothing else, and refuses
a larger one with nothing changed. Whatever has been done to a runner, it remembers the last program
that it has loaded, and none if there was no such program. What it fails to load changes neither its
machine nor that program, and it loads a file as its machine does, with the same error if it fails.
So it can always be reset. -/
theorem loading_is_all_or_nothing (machine : Machine) (keys : κ) (output : ω) (config : Config)
    (threshold : Option Severity) (ops : List RunnerOperation) :
    let start := new machine keys output config threshold
    let r := start.performAll ops
    (∀ (m : Machine) (program : List UInt8),
      let outcome := m.perform (.load program)
      (program.length ≤ 3584 → outcome.error? = none ∧
        ∃ memory, outcome.machine = { m with memory } ∧ Memory.Placed program m.memory memory) ∧
      (3584 < program.length → outcome.machine = m ∧
        outcome.error? = some (.load (.tooLarge program.length 3584)))) ∧
    r.program = (start.loaded ops).getLast?.getD [] ∧
    (∀ op halt, op.isLoad → r.perform op = .error halt →
      halt.runner.machine = r.machine ∧ halt.runner.program = r.program) ∧
    (∀ path contents,
      let settled := Halt.settle (r.perform (.loadFile path contents))
      let outcome := r.machine.perform (.loadFile path contents)
      settled.1.machine = outcome.machine ∧ settled.2 = outcome.error?) ∧
    ∃ again, r.perform .reset = .ok again := by
  intro start r
  refine ⟨?_, program_performAll start ops, fun op halt hop => of_perform_load_eq_error hop,
    settle_loadFile r, ?_⟩
  · intro m program outcome
    constructor
    · intro hfits
      obtain ⟨memory, hload, hplaced⟩ := m.perform_load_of_fits hfits
      rw [show outcome = _ from hload]
      exact ⟨rfl, memory, rfl, hplaced⟩
    · intro hlarge
      rw [show outcome = _ from m.perform_load_of_not_fits hlarge]
      exact ⟨rfl, rfl⟩
  · have hstart : start.plan.Ready config := ⟨rfl, Nat.zero_le _⟩
    have hready : r.plan.Ready config := ready_performAll hstart ops
    obtain ⟨again, hreset, -⟩ := exists_reset hready
    exact ⟨again, hreset⟩

end

/-- After a program that fits, a file that is not there and a program that is too large, the first
of them is the one that a reset loads. -/
theorem loading_is_all_or_nothing_of_failures :
    let start := new (Machine.initial (.ofSeed 0)) NoKeys.mk NoOutput.mk {} none
    let ops : List RunnerOperation :=
      [.load [0x12, 0x00], .loadFile "missing.ch8" (.error .notFound), .load (.replicate 3585 0)]
    let r := start.performAll ops
    r.program = [0x12, 0x00] ∧ ∃ again, r.perform .reset = .ok again := by
  intro start ops r
  obtain ⟨-, hprogram, -, -, hreset⟩ := loading_is_all_or_nothing (Machine.initial (.ofSeed 0))
    NoKeys.mk NoOutput.mk {} none ops
  have hloaded : start.loaded ops = [[0x12, 0x00]] := by
    unfold start ops
    decide +kernel
  refine ⟨?_, hreset⟩
  rw [show r.program = _ from hprogram, hloaded]
  rfl

end Runner

end Chip8
