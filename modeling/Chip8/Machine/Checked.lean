import Chip8.Machine.InPlace

/-!
# Execution with every access checked

The meaning of the operations once more, at the level of the tables that a computer keeps. A `Store`
is the machine laid out in tables of bytes and words, in which a pixel or a key is a byte, 1 or 0. A
`Checked` program overwrites a store piece by piece and leaves nothing to chance: an index that lies
outside of its table stops it, and so does a sum, a difference, a product or a shift that does not
fit (`Panic`). Only operations that are meant to wrap around, or to give nothing for an index that
is too large, are not checked, nor are shifts and quotients by fixed numbers.

`Checked.perform` does what an operation asks for. Nothing restores the store if it panics.
-/

namespace Chip8

/-- What a program cannot go on from. -/
inductive Panic where
  /-- A table of some size does not reach as far as an index. -/
  | outOfRange (index size : Nat)
  /-- A result does not fit. -/
  | overflow
deriving DecidableEq, Repr

/-- Why a program stopped before its end. -/
inductive Stop where
  /-- With an error for the caller. -/
  | error (error : Error)
  /-- With a panic. -/
  | panic (panic : Panic)
deriving DecidableEq

/-- The machine in tables. -/
structure Store where
  /-- The memory. -/
  memory : Vector UInt8 4096
  /-- The registers `v0` to `vF`. -/
  v : Vector UInt8 16
  /-- The address register. -/
  i : UInt16
  /-- The program counter. -/
  pc : UInt16
  /-- The index of the next free stack slot. -/
  sp : UInt8
  /-- The delay timer. -/
  delay : UInt8
  /-- The sound timer. -/
  sound : UInt8
  /-- The stack slots. -/
  stack : Vector UInt16 16
  /-- The rows of pixels, from the top. -/
  cells : Vector (Vector UInt8 64) 32
  /-- The keys. -/
  keys : Vector UInt8 16
  /-- Whether the display has been touched since it was last shown. -/
  needDraw : Bool
  /-- Whether an instruction is waiting for a key. -/
  waitingForKey : Bool
  /-- The source of random bytes. -/
  random : RandomSource
deriving DecidableEq

namespace Store

/-- Zeros throughout, before the machine is switched on. -/
def zeros (random : RandomSource) : Store where
  memory := .replicate 4096 0
  v := .replicate 16 0
  i := 0
  pc := programStart
  sp := 0
  delay := 0
  sound := 0
  stack := .replicate 16 0
  cells := .replicate 32 (.replicate 64 0)
  keys := .replicate 16 0
  needDraw := false
  waitingForKey := false
  random := random

/-- Whether a key is down. A number that names no key is never down. -/
def isPressed (s : Store) (key : UInt8) : Bool :=
  s.keys[key.toNat]?.any (· != 0)

/-- The lowest key that is down. -/
def firstPressed? (s : Store) : Option UInt8 :=
  (s.keys.toList.findIdx? (· != 0)).map UInt8.ofNat

end Store

/-- A program that overwrites a store, and leaves it half written if something stops it. -/
abbrev Checked := EStateM Stop Store

namespace Checked

/-! ### Tables and numbers -/

section

variable {α : Type} {n : Nat}

/-- The entry of a table at an index. -/
def entry (table : Vector α n) (k : Nat) : Checked α :=
  if h : k < n then return table[k] else throw (.panic (.outOfRange k n))

/-- A table with the entry at an index replaced. -/
def replace (table : Vector α n) (k : Nat) (a : α) : Checked (Vector α n) :=
  if h : k < n then return table.set k a h else throw (.panic (.outOfRange k n))

/-- The first entries of a table. -/
def first (table : Vector α n) (count : Nat) : Checked (List α) :=
  if count ≤ n then return table.toList.take count else throw (.panic (.outOfRange count n))

/-- A result, if it fits. -/
def fitting (fits : Prop) [Decidable fits] (a : α) : Checked α :=
  if fits then return a else throw (.panic .overflow)

end

/-- The sum of two sizes. These have at least 16 bits on any computer, and need no more. -/
def addSizes (a b : Nat) : Checked Nat :=
  fitting (a + b < 65536) (a + b)

/-- The difference of two sizes. -/
def subtractSizes (a b : Nat) : Checked Nat :=
  fitting (b ≤ a) (a - b)

/-- The sum of two bytes. -/
def addBytes (a b : UInt8) : Checked UInt8 :=
  fitting (a.toNat + b.toNat < 256) (a + b)

/-- The product of two words. -/
def multiplyWords (a b : UInt16) : Checked UInt16 :=
  fitting (a.toNat * b.toNat < 65536) (a * b)

/-- A byte shifted to the right. -/
def shiftByte (b : UInt8) (places : Nat) : Checked UInt8 :=
  fitting (places < 8) (b >>> UInt8.ofNat places)

/-! ### Memory and registers -/

/-- The byte at an address. -/
def read (a : UInt16) : Checked UInt8 := do
  entry (← get).memory (a &&& 0xFFF).toNat

/-- Replaces the byte at an address. -/
def write (a : UInt16) (b : UInt8) : Checked Unit := do
  let memory ← replace (← get).memory (a &&& 0xFFF).toNat b
  modify fun s => { s with memory }

/-- The word at an address. -/
def readWord (a : UInt16) : Checked UInt16 := do
  let high ← read a
  let low ← read (a + 1)
  return high.toUInt16 <<< 8 ||| low.toUInt16

/-- Writes bytes into the cells from an index on. -/
def fill (start : Nat) : List UInt8 → Checked Unit
  | [] => return
  | b :: rest => do
    let memory ← replace (← get).memory start b
    modify fun s => { s with memory }
    fill (start + 1) rest

/-- Copies bytes into the cells from an index on, which must reach far enough. -/
def copy (start : Nat) (bytes : List UInt8) : Checked Unit := do
  let stop ← addSizes start bytes.length
  if 4096 < stop then
    throw (.panic (.outOfRange stop 4096))
  fill start bytes

/-- The value of a register. -/
def register (x : UInt8) : Checked UInt8 := do
  entry (← get).v (x.toNat &&& 0xF)

/-- Replaces the value of a register. -/
def setRegister (x b : UInt8) : Checked Unit := do
  let v ← replace (← get).v (x.toNat &&& 0xF) b
  modify fun s => { s with v }

/-- Replaces the value of the flag by 1 or 0. -/
def setFlag (condition : Bool) : Checked Unit :=
  setRegister Registers.flag condition.toUInt8

/-- Stores the value of a register in memory, as far from the address register as the register is
from the first one. -/
def dumpOne (k : Nat) : Checked Unit := do
  let b ← entry (← get).v k
  write ((← get).i + UInt16.ofNat k) b

/-- Sets a register from there. -/
def restoreOne (k : Nat) : Checked Unit := do
  let b ← read ((← get).i + UInt16.ofNat k)
  let v ← replace (← get).v k b
  modify fun s => { s with v }

/-- Does something with the numbers below `n`, one after the other. -/
def forBelow (body : Nat → Checked Unit) : Nat → Checked Unit
  | 0 => return
  | n + 1 => do
    forBelow body n
    body n

/-! ### The display -/

/-- Flips the pixel of a bit in a row of a sprite, if it is set. A collision is remembered. -/
def drawBit (x y : Nat) (row : UInt8) (collision : Bool) (bit : Nat) : Checked Bool := do
  let pixel := (← shiftByte row (← subtractSizes 7 bit)) &&& 1
  if pixel = 0 then
    return collision
  let column := (← addSizes x bit) % 64
  let cells := (← get).cells
  let line ← entry cells y
  let cell ← entry line column
  let cells ← replace cells y (← replace line column (cell ^^^ pixel))
  modify fun s => { s with cells }
  return collision || cell == 1

/-- Draws a row of a sprite. -/
def drawRow (x y : Nat) (collision : Bool) (row : UInt8 × Nat) : Checked Bool := do
  let line := (← addSizes y row.2) % 32
  (List.range 8).foldlM (drawBit x line row.1) collision

/-- Draws a sprite with its top left corner at `(x, y)`, and tells whether it hit a pixel that was
on. -/
def drawSprite (x y : Nat) (sprite : List UInt8) : Checked Bool :=
  sprite.zipIdx.foldlM (drawRow x y) false

/-- Fills a buffer of 15 rows with a sprite, as far as both reach. -/
def spriteBuffer (height : Nat) : Checked (Vector UInt8 15) :=
  (List.range (min height 15)).foldlM
    (fun buffer row => do
      replace buffer row (← read ((← get).i + UInt16.ofNat row)))
    (.replicate 15 0)

/-! ### The instructions -/

/-- Overwrites everything but the program counter as an instruction asks for. -/
def apply : Instruction → Checked Flow
  | .sys _ => return .next
  | .clearScreen => do
    modify fun s => { s with cells := .replicate 32 (.replicate 64 0) }
    modify fun s => { s with needDraw := true }
    return .next
  | .ret => do
    let s ← get
    if s.sp = 0 then
      throw (.error (.fault (.stackUnderflow s.pc)))
    match s.stack[(s.sp - 1).toNat]? with
    | none => throw (.error (.fault (.stackUnderflow s.pc)))
    | some site =>
      modify fun s => { s with sp := s.sp - 1 }
      return .jump (site + 2)
  | .jump a => return .jump a
  | .call a => do
    let s ← get
    if h : s.sp.toNat < 16 then
      modify fun s' => { s' with stack := s.stack.set s.sp.toNat s.pc h }
      let sp ← addBytes (← get).sp 1
      modify fun s => { s with sp }
      return .jump a
    else
      throw (.error (.fault (.stackOverflow s.pc)))
  | .skipIfEqual x n => return .skipIf ((← register x) == n)
  | .skipIfNotEqual x n => return .skipIf ((← register x) != n)
  | .skipIfSame x y => return .skipIf ((← register x) == (← register y))
  | .skipIfDifferent x y => return .skipIf ((← register x) != (← register y))
  | .set x n => do
    setRegister x n
    return .next
  | .increase x n => do
    setRegister x ((← register x) + n)
    return .next
  | .copy x y => do
    setRegister x (← register y)
    return .next
  | .bitOr x y => do
    setRegister x ((← register x) ||| (← register y))
    return .next
  | .bitAnd x y => do
    setRegister x ((← register x) &&& (← register y))
    return .next
  | .bitXor x y => do
    setRegister x ((← register x) ^^^ (← register y))
    return .next
  | .add x y => do
    let a ← register x
    let b ← register y
    setRegister x (a + b)
    setFlag (decide (a.toNat + b.toNat > 255))
    return .next
  | .subtract x y => do
    let a ← register x
    let b ← register y
    setRegister x (a - b)
    setFlag (decide (b ≤ a))
    return .next
  | .subtractFrom x y => do
    let a ← register x
    let b ← register y
    setRegister x (b - a)
    setFlag (decide (a ≤ b))
    return .next
  | .shiftRight x => do
    let a ← register x
    setRegister x (a >>> 1)
    setRegister Registers.flag (a &&& 1)
    return .next
  | .shiftLeft x => do
    let a ← register x
    setRegister x (a <<< 1)
    setRegister Registers.flag (a >>> 7)
    return .next
  | .point a => do
    modify fun s => { s with i := a }
    return .next
  | .jumpOffset a => do
    return .jump (a + (← entry (← get).v 0).toUInt16)
  | .random x n => do
    let b := (← get).random.byte
    modify fun s => { s with random := s.random.advance }
    setRegister x (b &&& n)
    return .next
  | .draw x y n => do
    let buffer ← spriteBuffer n.toNat
    let column ← register x
    let row ← register y
    let sprite ← first buffer n.toNat
    let collision ← drawSprite column.toNat row.toNat sprite
    setFlag collision
    modify fun s => { s with needDraw := true }
    return .next
  | .skipIfPressed x => return .skipIf ((← get).isPressed (← register x))
  | .skipIfReleased x => return .skipIf !(← get).isPressed (← register x)
  | .readDelay x => do
    setRegister x (← get).delay
    return .next
  | .waitForKey x => do
    match (← get).firstPressed? with
    | some key =>
      setRegister x key
      modify fun s => { s with waitingForKey := false }
      return .next
    | none =>
      modify fun s => { s with waitingForKey := true }
      return .stay
  | .setDelay x => do
    let b ← register x
    modify fun s => { s with delay := b }
    return .next
  | .setSound x => do
    let b ← register x
    modify fun s => { s with sound := b }
    return .next
  | .advance x => do
    let b ← register x
    modify fun s => { s with i := s.i + b.toUInt16 }
    return .next
  | .pointToGlyph x => do
    let i ← multiplyWords (UInt16.ofNat glyphHeight) (← register x).toUInt16
    modify fun s => { s with i }
    return .next
  | .storeDecimal x => do
    let b ← register x
    write (← get).i (b / 100)
    write ((← get).i + 1) (b / 10 % 10)
    write ((← get).i + 2) (b % 10)
    return .next
  | .dump x => do
    forBelow dumpOne ((x &&& 0xF).toNat + 1)
    return .next
  | .restore x => do
    forBelow restoreOne ((x &&& 0xF).toNat + 1)
    return .next

/-- Executes an instruction as if it stood at the program counter. -/
def execute (i : Instruction) : Checked Unit := do
  let flow ← apply i
  modify fun s => { s with pc := flow.target s.pc }

/-- Executes instructions one after the other until one is stopped. -/
def executeAll : List Instruction → Checked Unit
  | [] => return
  | i :: rest => do
    execute i
    executeAll rest

/-- The instruction at the program counter. -/
def fetch : Checked Instruction := do
  let pc := (← get).pc
  let word ← readWord pc
  match Instruction.decode? (.ofWord word) with
  | some i => return i
  | none => throw (.error (.fault (.unknownOpcode word pc)))

/-- Executes the instruction at the program counter, leaving the timers to the caller. -/
def cycle : Checked Unit := do
  execute (← fetch)

/-- Ticks the timers. -/
def tick : Checked Unit :=
  modify fun s => { s with delay := Timers.countDown s.delay, sound := Timers.countDown s.sound }

/-- Ticks the timers and executes the instruction at the program counter. If that gives an error the
timers are put back, but not if it panics. -/
def step : Checked Unit := do
  let i ← fetch
  let delay := (← get).delay
  let sound := (← get).sound
  tick
  try
    execute i
  catch
    | .error e =>
      modify fun s => { s with delay, sound }
      throw (.error e)
    | .panic p => throw (.panic p)

/-! ### Everything else -/

/-- Switches the machine on. -/
def switchOn : Checked Unit :=
  copy 0 font

/-- Puts everything but the random source back, part by part. -/
def reset : Checked Unit := do
  modify fun s =>
    { s with v := .replicate 16 0, i := 0, pc := programStart, sp := 0, delay := 0, sound := 0 }
  modify fun s => { s with memory := .replicate 4096 0 }
  copy 0 font
  modify fun s => { s with stack := .replicate 16 0 }
  modify fun s => { s with keys := .replicate 16 0 }
  modify fun s => { s with cells := .replicate 32 (.replicate 64 0) }
  modify fun s => { s with needDraw := false }
  modify fun s => { s with waitingForKey := false }

/-- Copies a program into memory, unless it is too large to fit. -/
def load (program : List UInt8) : Checked Unit := do
  if programLimit < program.length then
    throw (.error (.load (.tooLarge program.length programLimit)))
  copy programStart.toNat program

/-- Moves a key down or up, if there is such a key. -/
def setKey (key : UInt8) (isDown : Bool) : Checked Unit :=
  modify fun s => { s with keys := s.keys.setIfInBounds key.toNat isDown.toUInt8 }

/-- Performs an operation. -/
def perform : Operation → Checked Unit
  | .step => step
  | .cycle => cycle
  | .execute i => execute i
  | .executeAll is => executeAll is
  | .tick => tick
  | .reset => reset
  | .load program => load program
  | .loadFile path contents =>
    match contents with
    | .ok program => load program
    | .error reason => throw (.error (.load (.unreadable path reason)))
  | .press key => setKey key true
  | .release key => setKey key false
  | .releaseAll => modify fun s => { s with keys := .replicate 16 0 }
  | .markDrawn => modify fun s => { s with needDraw := false }
  | .poke a b => write a b
  | .wipe => modify fun s => { s with memory := .replicate 4096 0 }
  | .setRegister x b => setRegister x b
  | .setIndex a => modify fun s => { s with i := a }
  | .setCounter a => modify fun s => { s with pc := a }
  | .setDepth n => modify fun s => { s with sp := n }
  | .setDelay t => modify fun s => { s with delay := t }
  | .setSound t => modify fun s => { s with sound := t }

/-- What a program leaves of the store. -/
def left : EStateM.Result Stop Store Unit → Store
  | .ok _ s => s
  | .error _ s => s

/-- Performs operations one after the other, whatever stops them. -/
def performAll (s : Store) (operations : List Operation) : Store :=
  operations.foldl (fun s op => left ((perform op).run s)) s

end Checked

end Chip8
