import Chip8.Machine.Operation
import Chip8.Runner.Basic

/-!
# Histories of a runner

Everything that can be done to a runner from outside, as data, with edits of its machine among it.
`Runner.perform` does one of these things, and a history of a runner is a list of them done one
after the other, whether they succeed or not: what a failed one leaves is what the next one finds.
-/

namespace Chip8

/-- Something that can be done to a runner. -/
inductive RunnerOperation where
  /-- Load a program. -/
  | load (program : List UInt8)
  /-- Load a file that was read with some result. -/
  | loadFile (path : String) (contents : Except ReadError (List UInt8))
  /-- Run a frame. -/
  | frame
  /-- Run some number of frames. -/
  | run (frames : Nat)
  /-- Execute a single instruction. -/
  | singleStep
  /-- Pause or resume. -/
  | togglePause
  /-- Reset the machine and load the program again. -/
  | reset
  /-- Do something to the machine. -/
  | edit (operation : Operation)

namespace RunnerOperation

/-- Whether an operation may run several frames. -/
def isRun : RunnerOperation → Bool
  | run _ => true
  | _ => false

/-- Whether an operation goes past the runner to its machine. -/
def isEdit : RunnerOperation → Bool
  | edit _ => true
  | _ => false

/-- Whether the last thing that an operation does is to run a frame or to execute a single
instruction. -/
def endsInFrame : RunnerOperation → Bool
  | frame | singleStep => true
  | run frames => frames != 0
  | _ => false

end RunnerOperation

namespace Halt

variable {κ ω : Type}

/-- The runner that an operation leaves, whether it succeeded or not, and its error if it did not.
-/
def settle : Except (Halt κ ω) (Runner κ ω) → Runner κ ω × Option Error
  | .ok r => (r, none)
  | .error halt => (halt.runner, some halt.error)

end Halt

namespace Runner

variable {κ ω : Type}

/-- Does something to the machine. -/
def edit (r : Runner κ ω) (operation : Operation) : Except (Halt κ ω) (Runner κ ω) :=
  let outcome := r.machine.perform operation
  let r := { r with machine := outcome.machine, journal := r.journal.noteAll outcome.log }
  match outcome.error? with
  | none => .ok r
  | some error => .error ⟨error, r⟩

/-- Performs an operation. -/
def perform [KeySource κ] [OutputDevice ω] (r : Runner κ ω) :
    RunnerOperation → Except (Halt κ ω) (Runner κ ω)
  | .load program => r.load program
  | .loadFile path contents => r.loadFile path contents
  | .frame => r.frame
  | .run frames => r.run frames
  | .singleStep => r.singleStep
  | .togglePause => .ok r.togglePause
  | .reset => r.reset
  | .edit operation => r.edit operation

/-- Performs operations one after the other, whether they succeed or not. -/
def performAll [KeySource κ] [OutputDevice ω] (r : Runner κ ω)
    (operations : List RunnerOperation) : Runner κ ω :=
  operations.foldl (fun r op => (Halt.settle (r.perform op)).1) r

end Runner

end Chip8
