import Chip8.Allowance
import Chip8.Text.Record

/-!
# Settings

How fast a program runs, how the timers are driven, and what is reported and sounded. The defaults
are 400 instructions in a second of 60 frames, with timers that tick once per frame.
-/

namespace Chip8

/-- How the delay and sound timers are driven. -/
inductive TimerMode where
  /-- One tick per instruction, so that the timers run at the speed of the program. -/
  | coupled
  /-- One tick per frame, whatever the speed of the program. -/
  | decoupled
deriving DecidableEq, Repr

/-- The name of a timer mode for diagnostics. -/
def TimerMode.name : TimerMode → String
  | coupled => "Coupled"
  | decoupled => "Decoupled"

/-- The settings of a runner. -/
structure Config where
  /-- Instructions per second. -/
  clockSpeed : UInt32 := 400
  /-- Frames per second. -/
  tickRate : UInt32 := 60
  /-- How the timers are driven. -/
  timerMode : TimerMode := .decoupled
  /-- Whether the sound stays off. -/
  mute : Bool := false
  /-- Whether the state of the machine is reported before every instruction. -/
  debug : Bool := false
deriving DecidableEq, Repr

namespace Config

/-- The instructions that one frame executes, before anything is carried over. -/
def instructionsPerFrame (c : Config) : Allowance :=
  .perFrame c.clockSpeed c.tickRate

/-- The settings for diagnostics. -/
def describe (c : Config) : String :=
  Text.record "Config"
    [("clock_speed", Text.decimal c.clockSpeed.toNat),
      ("tick_rate", Text.decimal c.tickRate.toNat), ("timer_mode", c.timerMode.name),
      ("mute", Text.truth c.mute), ("debug", Text.truth c.debug)]

end Config

end Chip8
