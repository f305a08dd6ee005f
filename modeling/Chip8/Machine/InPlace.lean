import Chip8.Machine.Operation

/-!
# Execution in place

The meaning of the instructions once more, as programs that overwrite a machine piece by piece: the
result first and the flag after it, the stack slot first and the depth after it. A fault may stop
such an `Update` at any point, and nothing undoes what has been written by then. `Update.step` ticks
the timers before it executes, so it puts them back itself if the instruction is stopped. A reset,
too, overwrites one part after the other (`Update.reset`).

`Machine.execute`, `Machine.cycle` and `Machine.step` give a whole machine or a fault instead, and
`Update.leave` says what such a result leaves behind in the machine that it was computed from.
-/

namespace Chip8

/-- Where an instruction goes on once it is done. -/
inductive Flow where
  /-- At the following instruction. -/
  | next
  /-- At the instruction after the following one. -/
  | skip
  /-- At the same instruction again. -/
  | stay
  /-- At an address. -/
  | jump (address : UInt16)
deriving DecidableEq, Repr

namespace Flow

/-- Skips the following instruction if a condition holds. -/
def skipIf (condition : Bool) : Flow :=
  if condition then skip else next

/-- The program counter after an instruction at `pc`. -/
def target (pc : UInt16) : Flow → UInt16
  | next => pc + 2
  | skip => pc + 4
  | stay => pc
  | jump a => a

end Flow

/-- A program that overwrites the machine, and leaves it half written if a fault stops it. -/
abbrev Update := EStateM Fault Machine

namespace Update

/-- The value of a register. -/
def read (x : UInt8) : Update UInt8 :=
  return (← get).v.get x

/-- Overwrites a register. -/
def write (x b : UInt8) : Update Unit :=
  modify fun m => { m with v := m.v.set x b }

/-- Overwrites the flag. -/
def writeFlag (condition : Bool) : Update Unit :=
  modify fun m => { m with v := m.v.setFlag condition }

/-! ### The instructions -/

/-- Overwrites everything but the program counter as an instruction asks for. -/
def apply : Instruction → Update Flow
  | .sys _ => return .next
  | .clearScreen => do
    modify fun m => { m with display := .blank }
    modify fun m => { m with needDraw := true }
    return .next
  | .ret => do
    let m ← get
    if m.calls.depth = 0 then
      throw (.stackUnderflow m.pc)
    match m.calls.slot? (m.calls.depth - 1) with
    | none => throw (.stackUnderflow m.pc)
    | some site =>
      modify fun m => { m with calls := { m.calls with depth := m.calls.depth - 1 } }
      return .jump (site + 2)
  | .jump a => return .jump a
  | .call a => do
    let m ← get
    match m.calls.setSlot? m.calls.depth m.pc with
    | none => throw (.stackOverflow m.pc)
    | some calls =>
      modify fun m => { m with calls }
      modify fun m => { m with calls := { m.calls with depth := m.calls.depth + 1 } }
      return .jump a
  | .skipIfEqual x n => return .skipIf ((← read x) == n)
  | .skipIfNotEqual x n => return .skipIf ((← read x) != n)
  | .skipIfSame x y => return .skipIf ((← read x) == (← read y))
  | .skipIfDifferent x y => return .skipIf ((← read x) != (← read y))
  | .set x n => do
    write x n
    return .next
  | .increase x n => do
    write x ((← read x) + n)
    return .next
  | .copy x y => do
    write x (← read y)
    return .next
  | .bitOr x y => do
    write x ((← read x) ||| (← read y))
    return .next
  | .bitAnd x y => do
    write x ((← read x) &&& (← read y))
    return .next
  | .bitXor x y => do
    write x ((← read x) ^^^ (← read y))
    return .next
  | .add x y => do
    let a ← read x
    let b ← read y
    write x (a + b)
    writeFlag (decide (a.toNat + b.toNat > 255))
    return .next
  | .subtract x y => do
    let a ← read x
    let b ← read y
    write x (a - b)
    writeFlag (decide (b ≤ a))
    return .next
  | .subtractFrom x y => do
    let a ← read x
    let b ← read y
    write x (b - a)
    writeFlag (decide (a ≤ b))
    return .next
  | .shiftRight x => do
    let a ← read x
    write x (a >>> 1)
    writeFlag (a % 2 == 1)
    return .next
  | .shiftLeft x => do
    let a ← read x
    write x (a <<< 1)
    writeFlag (decide (a ≥ 128))
    return .next
  | .point a => do
    modify fun m => { m with i := a }
    return .next
  | .jumpOffset a => return .jump (a + (← read 0).toUInt16)
  | .random x n => do
    let b := (← get).random.byte
    modify fun m => { m with random := m.random.advance }
    write x (b &&& n)
    return .next
  | .draw x y n => do
    let sprite := (← get).sprite n
    if Machine.spriteLimit < n then
      throw (.spriteTooTall n)
    let (display, collision) :=
      (← get).display.draw (← read x).toUInt64 (← read y).toUInt64 sprite
    modify fun m => { m with display }
    writeFlag collision
    modify fun m => { m with needDraw := true }
    return .next
  | .skipIfPressed x => return .skipIf ((← get).keypad.isPressed (← read x))
  | .skipIfReleased x => return .skipIf !(← get).keypad.isPressed (← read x)
  | .readDelay x => do
    write x (← get).timers.delay
    return .next
  | .waitForKey x => do
    match (← get).keypad.firstPressed? with
    | some key =>
      write x key
      modify fun m => { m with waitingForKey := false }
      return .next
    | none =>
      modify fun m => { m with waitingForKey := true }
      return .stay
  | .setDelay x => do
    let b ← read x
    modify fun m => { m with timers := { m.timers with delay := b } }
    return .next
  | .setSound x => do
    let b ← read x
    modify fun m => { m with timers := { m.timers with sound := b } }
    return .next
  | .advance x => do
    let b ← read x
    modify fun m => { m with i := m.i + b.toUInt16 }
    return .next
  | .pointToGlyph x => do
    let b ← read x
    modify fun m => { m with i := UInt16.ofNat glyphHeight * b.toUInt16 }
    return .next
  | .storeDecimal x => do
    let b ← read x
    modify fun m => { m with memory := m.memory.write m.i (b / 100) }
    modify fun m => { m with memory := m.memory.write (m.i + 1) (b / 10 % 10) }
    modify fun m => { m with memory := m.memory.write (m.i + 2) (b % 10) }
    return .next
  | .dump x => do
    modify fun m => { m with memory := m.memory.writeBlock m.i (m.v.upTo x) }
    return .next
  | .restore x => do
    let count := (Registers.slotOf x).val + 1
    modify fun m => { m with v := m.v.setFrom 0 (m.memory.readBlock m.i count) }
    return .next

/-- Executes an instruction as if it stood at the program counter. -/
def execute (i : Instruction) : Update Unit := do
  let flow ← apply i
  modify fun m => { m with pc := flow.target m.pc }

/-- Executes instructions one after the other until one is stopped. -/
def executeAll : List Instruction → Update Unit
  | [] => return
  | i :: rest => do
    execute i
    executeAll rest

/-! ### Fetching -/

/-- The instruction at the program counter. -/
def fetch : Update Instruction := do
  match (← get).fetch with
  | .ok i => return i
  | .error f => throw f

/-- Executes the instruction at the program counter, leaving the timers to the caller. -/
def cycle : Update Unit := do
  execute (← fetch)

/-- Ticks the timers and executes the instruction at the program counter. If it is stopped, the
timers are put back. -/
def step : Update Unit := do
  let i ← fetch
  let timers := (← get).timers
  modify Machine.tick
  try
    execute i
  catch f =>
    modify fun m => { m with timers }
    throw f

/-! ### Resetting -/

/-- Overwrites everything but the random source, part by part, as a reset does. -/
def reset : Update Unit := do
  modify fun m =>
    { m with
      v := .zeros
      i := 0
      pc := programStart
      calls := { m.calls with depth := 0 }
      timers := .zeros }
  modify fun m => { m with memory := .zeros }
  modify fun m => { m with memory := m.memory.withFont }
  modify fun m => { m with calls := { m.calls with slots := .replicate 16 0 } }
  modify fun m => { m with keypad := .released }
  modify fun m => { m with display := .blank }
  modify fun m => { m with needDraw := false }
  modify fun m => { m with waitingForKey := false }

/-! ### What is left -/

/-- What the result of an attempt leaves of the machine `m`: the machine that it gives, or `m` and
the fault. -/
def leave (m : Machine) : Except Fault Machine → EStateM.Result Fault Machine Unit
  | .ok m' => .ok () m'
  | .error f => .error f m

/-- What a program has made of the machine, as the outcome of an operation. -/
def outcome (log : List LogRecord) : EStateM.Result Fault Machine Unit → Outcome
  | .ok () m => ⟨m, log, none⟩
  | .error f m => ⟨m, log, some (.fault f)⟩

end Update

end Chip8
