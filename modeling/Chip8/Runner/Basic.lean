import Chip8.Config
import Chip8.Machine.Execute
import Chip8.Runner.Output

/-!
# Running a machine frame by frame

A `Runner` drives a machine on behalf of a frontend: sixty times a second, or as often as its
settings say, `Runner.frame` reads the keys, executes the instructions due, ticks the timers and
sends the display and the sound to the output device. It can be paused, stepped, and reset with its
program.

An operation that fails ends early but leaves a runner all the same, in the state in which the error
found it: a `Halt` is the error together with that runner.
-/

namespace Chip8

/-- A machine with the devices and settings to run it. -/
structure Runner (κ ω : Type) where
  /-- The machine. -/
  machine : Machine
  /-- The device that keys are read from. -/
  keys : κ
  /-- The device that frames and sound are sent to. -/
  output : ω
  /-- What has been reported. -/
  journal : Journal
  /-- The settings. -/
  config : Config
  /-- The program that a reset loads again. -/
  program : List UInt8
  /-- The instructions owed, less than one between frames unless a frame has failed. -/
  budget : Allowance
  /-- Whether frames execute nothing. -/
  paused : Bool
  /-- Whether the output device was last told to beep. -/
  soundOn : Bool

/-- An error, and the runner that it occurred in. -/
structure Halt (κ ω : Type) where
  /-- The error. -/
  error : Error
  /-- The runner as the error left it. -/
  runner : Runner κ ω

namespace Runner

variable {κ ω : Type}

/-- A runner that has no program yet. -/
def new (machine : Machine) (keys : κ) (output : ω) (config : Config)
    (threshold : Option Severity) : Runner κ ω where
  machine := machine
  keys := keys
  output := output
  journal := .empty threshold
  config := config
  program := []
  budget := .zero
  paused := false
  soundOn := false

/-- Reports something. -/
def note (r : Runner κ ω) (record : LogRecord) : Runner κ ω :=
  { r with journal := r.journal.note record }

/-! ### Programs -/

/-- Loads a program, and remembers it for resets if it fits. -/
def load (r : Runner κ ω) (program : List UInt8) : Except (Halt κ ω) (Runner κ ω) :=
  match r.machine.load program with
  | .ok machine => .ok ({ r with machine, program }.note (.loaded program.length))
  | .error e => .error ⟨.load e, r⟩

/-- Loads a file that was read with some result. -/
def loadFile (r : Runner κ ω) (path : String) (contents : Except ReadError (List UInt8)) :
    Except (Halt κ ω) (Runner κ ω) :=
  match contents with
  | .ok program => (r.note (.executing path)).load program
  | .error reason => .error ⟨.load (.unreadable path reason), r⟩

/-- Resets the machine, loads the program again, and starts over unpaused and with nothing owed. -/
def reset (r : Runner κ ω) : Except (Halt κ ω) (Runner κ ω) :=
  match ({ r with machine := r.machine.reset }.note .resetting).load r.program with
  | .ok r => .ok { r with budget := .zero, paused := false }
  | .error halt => .error halt

/-- Pauses or resumes. -/
def togglePause (r : Runner κ ω) : Runner κ ω :=
  { r with paused := !r.paused }.note (if r.paused then .resumed else .paused)

/-! ### Single instructions -/

/-- Reports the state of the machine, if the settings ask for that. -/
def noteState (r : Runner κ ω) : Runner κ ω :=
  if r.config.debug then r.note (.state r.machine.snapshot) else r

/-- Takes over the result of an attempt at the instruction at the program counter, and what it
reports. -/
def attempt (r : Runner κ ω) (result : Except Fault Machine) : Except (Halt κ ω) (Runner κ ω) :=
  let noted := { r with journal := r.journal.noteAll r.machine.trace }
  match result with
  | .ok machine => .ok { noted with machine }
  | .error f => .error ⟨.fault f, noted⟩

/-- Executes one instruction, ticking the timers with it if they are coupled. -/
def executeOne (r : Runner κ ω) : Except (Halt κ ω) (Runner κ ω) :=
  match r.config.timerMode with
  | .coupled => r.noteState.attempt r.machine.step
  | .decoupled => r.noteState.attempt r.machine.cycle

/-- Executes `n` instructions one after the other, each paid for before it is attempted, stopping at
the first fault. -/
def executeMany (r : Runner κ ω) : Nat → Except (Halt κ ω) (Runner κ ω)
  | 0 => .ok r
  | n + 1 =>
    match { r with budget := r.budget.spend }.executeOne with
    | .ok r => r.executeMany n
    | .error halt => .error halt

/-! ### Frames -/

/-- Reads the keys. -/
def pollKeys [KeySource κ] (r : Runner κ ω) : Runner κ ω :=
  let (keypad, keys) := KeySource.poll r.keys r.machine.keypad
  { r with machine := { r.machine with keypad }, keys }

/-- Ticks the timers, if they tick once per frame. -/
def tickFrame (r : Runner κ ω) : Runner κ ω :=
  match r.config.timerMode with
  | .coupled => r
  | .decoupled => { r with machine := r.machine.tick }

/-- Adds what is due in one frame to the instructions owed. -/
def owe (r : Runner κ ω) : Runner κ ω :=
  { r with budget := r.budget.add r.config.instructionsPerFrame }

-- These are proved by unfolding `owe` alone: to tell `r.owe` from `r` by evaluation is to round.
@[simp]
theorem machine_owe (r : Runner κ ω) : r.owe.machine = r.machine := by
  rw [owe]

@[simp]
theorem output_owe (r : Runner κ ω) : r.owe.output = r.output := by
  rw [owe]

theorem budget_owe (r : Runner κ ω) :
    r.owe.budget = r.budget.add r.config.instructionsPerFrame := by
  rw [owe]

/-- Executes the instructions of one frame and ticks the timers. -/
def play (r : Runner κ ω) : Except (Halt κ ω) (Runner κ ω) :=
  (r.owe.executeMany r.owe.budget.whole).map tickFrame

/-- Whether the beep should be on: while the sound timer runs, unless muted. -/
def wantsSound (r : Runner κ ω) : Bool :=
  !r.config.mute && r.machine.timers.sound != 0

/-- Tells the output device about the sound, if that has changed. -/
def updateSound [OutputDevice ω] (r : Runner κ ω) : Runner κ ω :=
  if r.wantsSound = r.soundOn then r
  else
    { r with
      soundOn := r.wantsSound
      output := OutputDevice.sound r.output r.wantsSound }

/-- Shows the display, if it has been touched. -/
def updateScreen [OutputDevice ω] (r : Runner κ ω) : Runner κ ω :=
  if r.machine.needDraw then
    { r with
      machine := r.machine.markDrawn
      output := OutputDevice.present r.output r.machine.display }
  else r

/-- Sends what has changed to the output device, the sound first. -/
def updateOutput [OutputDevice ω] (r : Runner κ ω) : Runner κ ω :=
  r.updateSound.updateScreen

/-- Runs one frame: reads the keys, executes the instructions due and ticks the timers unless
paused, and sends what has changed to the output device unless an instruction failed. -/
def frame [KeySource κ] [OutputDevice ω] (r : Runner κ ω) : Except (Halt κ ω) (Runner κ ω) :=
  let r := r.pollKeys
  if r.paused then .ok r.updateOutput
  else
    match r.play with
    | .ok r => .ok r.updateOutput
    | .error halt => .error halt

/-- Runs `n` frames, stopping at the first error. -/
def run [KeySource κ] [OutputDevice ω] (r : Runner κ ω) : Nat → Except (Halt κ ω) (Runner κ ω)
  | 0 => .ok r
  | n + 1 =>
    match r.frame with
    | .ok r => r.run n
    | .error halt => .error halt

/-- Executes a single instruction, ticking the timers with it whatever drives them otherwise, and
sends what has changed to the output device. -/
def singleStep [KeySource κ] [OutputDevice ω] (r : Runner κ ω) :
    Except (Halt κ ω) (Runner κ ω) :=
  let r := r.pollKeys
  match r.noteState.attempt r.machine.step with
  | .ok r => .ok r.updateOutput
  | .error halt => .error halt

end Runner

end Chip8
