import Chip8.Machine.Basic

/-!
# Executing instructions

`Machine.execute` is the meaning of each instruction, and `Machine.cycle` and `Machine.step` fetch
the instruction at the program counter and execute it, `step` ticking the timers first. Each gives
the machine afterwards or the fault that stopped it, in which case the machine before is all there
is: no instruction fails halfway.

The results of arithmetic are written before the flag, so where the destination is the flag register
itself only the flag survives. Addresses wrap at 16 bits when they are computed and at 12 bits when
memory is accessed.
-/

namespace Chip8

namespace Machine

/-! ### Where to go on -/

/-- Goes on to the following instruction. -/
def next (m : Machine) : Machine :=
  { m with pc := m.pc + 2 }

/-- Goes on to the following instruction, or to the one after it if a condition holds. -/
def skipIf (m : Machine) (condition : Bool) : Machine :=
  { m with pc := if condition then m.pc + 4 else m.pc + 2 }

/-- Goes on at an address. -/
def jump (m : Machine) (address : UInt16) : Machine :=
  { m with pc := address }

/-! ### Parts of instructions -/

/-- Sets a register. -/
def put (m : Machine) (x b : UInt8) : Machine :=
  { m with v := m.v.set x b }

/-- Sets a register, and then the flag. -/
def putFlagged (m : Machine) (x b : UInt8) (flag : Bool) : Machine :=
  { m with v := (m.v.set x b).setFlag flag }

/-- The greatest number of rows that an opcode can draw. -/
def spriteLimit : UInt8 := 15

/-- The sprite of `n` rows at the address register. -/
def sprite (m : Machine) (n : UInt8) : List UInt8 :=
  m.memory.readBlock m.i n.toNat

/-- Draws the sprite of `n` rows at the address register with its corner at `(vx, vy)`, the flag
telling whether it hit a pixel that was on. -/
def drawSprite (m : Machine) (x y n : UInt8) : Machine :=
  let (display, collision) :=
    m.display.draw (m.v.get x).toUInt64 (m.v.get y).toUInt64 (m.sprite n)
  { m with display, v := m.v.setFlag collision, needDraw := true }

/-- The decimal digits of a byte: hundreds, tens and ones. -/
def decimalDigitsOf (b : UInt8) : List UInt8 :=
  [b / 100, b / 10 % 10, b % 10]

/-- Stores the lowest key that is down in `vx` and goes on, or waits at this instruction if no key
is down. -/
def awaitKey (m : Machine) (x : UInt8) : Machine :=
  match m.keypad.firstPressed? with
  | some key => { m.put x key with waitingForKey := false }.next
  | none => { m with waitingForKey := true }

/-! ### The instructions -/

/-- Executes an instruction as if it stood at the program counter. -/
def execute (m : Machine) : Instruction → Except Fault Machine
  | .sys _ => .ok m.next
  | .clearScreen => .ok { m with display := .blank, needDraw := true }.next
  | .ret =>
    match m.calls.pop? with
    | some (site, calls) => .ok ({ m with calls }.jump (site + 2))
    | none => .error (.stackUnderflow m.pc)
  | .jump a => .ok (m.jump a)
  | .call a =>
    match m.calls.push? m.pc with
    | some calls => .ok ({ m with calls }.jump a)
    | none => .error (.stackOverflow m.pc)
  | .skipIfEqual x n => .ok (m.skipIf (m.v.get x == n))
  | .skipIfNotEqual x n => .ok (m.skipIf (m.v.get x != n))
  | .skipIfSame x y => .ok (m.skipIf (m.v.get x == m.v.get y))
  | .skipIfDifferent x y => .ok (m.skipIf (m.v.get x != m.v.get y))
  | .set x n => .ok (m.put x n).next
  | .increase x n => .ok (m.put x (m.v.get x + n)).next
  | .copy x y => .ok (m.put x (m.v.get y)).next
  | .bitOr x y => .ok (m.put x (m.v.get x ||| m.v.get y)).next
  | .bitAnd x y => .ok (m.put x (m.v.get x &&& m.v.get y)).next
  | .bitXor x y => .ok (m.put x (m.v.get x ^^^ m.v.get y)).next
  | .add x y =>
    let a := m.v.get x
    let b := m.v.get y
    .ok (m.putFlagged x (a + b) (decide (a.toNat + b.toNat > 255))).next
  | .subtract x y =>
    let a := m.v.get x
    let b := m.v.get y
    .ok (m.putFlagged x (a - b) (decide (b ≤ a))).next
  | .subtractFrom x y =>
    let a := m.v.get x
    let b := m.v.get y
    .ok (m.putFlagged x (b - a) (decide (a ≤ b))).next
  | .shiftRight x =>
    let a := m.v.get x
    .ok (m.putFlagged x (a >>> 1) (a % 2 == 1)).next
  | .shiftLeft x =>
    let a := m.v.get x
    .ok (m.putFlagged x (a <<< 1) (decide (a ≥ 128))).next
  | .point a => .ok { m with i := a }.next
  | .jumpOffset a => .ok (m.jump (a + (m.v.get 0).toUInt16))
  | .random x n => .ok { m.put x (m.random.byte &&& n) with random := m.random.advance }.next
  | .draw x y n =>
    if n ≤ spriteLimit then .ok (m.drawSprite x y n).next else .error (.spriteTooTall n)
  | .skipIfPressed x => .ok (m.skipIf (m.keypad.isPressed (m.v.get x)))
  | .skipIfReleased x => .ok (m.skipIf (!m.keypad.isPressed (m.v.get x)))
  | .readDelay x => .ok (m.put x m.timers.delay).next
  | .waitForKey x => .ok (m.awaitKey x)
  | .setDelay x => .ok { m with timers := { m.timers with delay := m.v.get x } }.next
  | .setSound x => .ok { m with timers := { m.timers with sound := m.v.get x } }.next
  | .advance x => .ok { m with i := m.i + (m.v.get x).toUInt16 }.next
  | .pointToGlyph x =>
    .ok { m with i := UInt16.ofNat glyphHeight * (m.v.get x).toUInt16 }.next
  | .storeDecimal x =>
    .ok { m with memory := m.memory.writeBlock m.i (decimalDigitsOf (m.v.get x)) }.next
  | .dump x => .ok { m with memory := m.memory.writeBlock m.i (m.v.upTo x) }.next
  | .restore x =>
    let count := (Registers.slotOf x).val + 1
    .ok { m with v := m.v.setFrom 0 (m.memory.readBlock m.i count) }.next

/-! ### Fetching -/

/-- The instruction at the program counter. -/
def fetch (m : Machine) : Except Fault Instruction :=
  match Instruction.decode? m.opcode with
  | some i => .ok i
  | none => .error (.unknownOpcode m.opcode.toWord m.pc)

/-- Executes the instruction at the program counter, leaving the timers to the caller. -/
def cycle (m : Machine) : Except Fault Machine :=
  match m.fetch with
  | .ok i => m.execute i
  | .error f => .error f

/-- Ticks the timers and executes the instruction at the program counter. -/
def step (m : Machine) : Except Fault Machine :=
  match m.fetch with
  | .ok i => m.tick.execute i
  | .error f => .error f

/-! ### What is reported -/

/-- What the execution of an instruction reports. -/
def warnings : Instruction → List LogRecord
  | .sys a => [.machineCodeIgnored a]
  | _ => []

/-- What an attempt at the instruction at the program counter reports: nothing if there is none,
else the instruction itself and then what its execution does. -/
def trace (m : Machine) : List LogRecord :=
  match m.fetch with
  | .ok i => .fetched m.pc i :: warnings i
  | .error _ => []

end Machine

end Chip8
