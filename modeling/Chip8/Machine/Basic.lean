import Chip8.CallStack
import Chip8.Display
import Chip8.Instruction.Encoding
import Chip8.Keypad
import Chip8.Log
import Chip8.Memory
import Chip8.Random
import Chip8.Registers

/-!
# The machine

The whole state of the virtual machine, the state that it is switched on in (`Machine.initial`), and
the operations on it that execute nothing: resetting, loading a program, ticking the timers, and
looking at it. A reset keeps the random source where it is, so that it does not repeat itself.
-/

namespace Chip8

/-- The state of the virtual machine. -/
structure Machine where
  /-- The memory. -/
  memory : Memory
  /-- The registers `v0` to `vF`. -/
  v : Registers
  /-- The address register. -/
  i : UInt16
  /-- The address of the instruction to execute. -/
  pc : UInt16
  /-- The open calls. -/
  calls : CallStack
  /-- The two timers. -/
  timers : Timers
  /-- The display. -/
  display : Display
  /-- The keypad. -/
  keypad : Keypad
  /-- Whether the display has been touched since it was last shown. -/
  needDraw : Bool
  /-- Whether an instruction is waiting for a key. -/
  waitingForKey : Bool
  /-- The source of random bytes. -/
  random : RandomSource
deriving DecidableEq

namespace Machine

/-- The machine as it is switched on, with a source of random bytes. -/
def initial (random : RandomSource) : Machine where
  memory := .initial
  v := .zeros
  i := 0
  pc := programStart
  calls := .empty
  timers := .zeros
  display := .blank
  keypad := .released
  needDraw := false
  waitingForKey := false
  random := random

/-- The machine as it is switched on, with the random bytes of a seed. -/
def ofSeed (seed : UInt64) : Machine :=
  initial (.ofSeed seed)

/-- Puts everything but the random source back into the state of a machine just switched on. -/
def reset (m : Machine) : Machine :=
  initial m.random

/-- Places a program in memory, unless it is too large to fit. -/
def load (m : Machine) (program : List UInt8) : Except LoadError Machine :=
  (m.memory.load program).map fun memory => { m with memory }

/-- Counts both timers down by one. -/
def tick (m : Machine) : Machine :=
  { m with timers := m.timers.tick }

/-- Takes note that the display has been shown. -/
def markDrawn (m : Machine) : Machine :=
  { m with needDraw := false }

/-! ### Looking at the machine -/

/-- The opcode at the program counter. -/
def opcode (m : Machine) : Opcode :=
  m.memory.opcodeAt m.pc

/-- The machine at a glance. -/
def snapshot (m : Machine) : Snapshot where
  opcode := m.opcode.toWord
  pc := m.pc
  sp := m.calls.depth
  i := m.i
  v := m.v.values

/-- The registers and timers for diagnostics. -/
def describeRegisters (m : Machine) : String :=
  Text.record "Registers"
    [("v", Text.bytes m.v.values.toList), ("i", Text.decimal m.i.toNat),
      ("pc", Text.decimal m.pc.toNat), ("sp", Text.decimal m.calls.depth.toNat),
      ("delay_timer", Text.decimal m.timers.delay.toNat),
      ("sound_timer", Text.decimal m.timers.sound.toNat)]

end Machine

end Chip8
