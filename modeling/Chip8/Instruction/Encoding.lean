import Chip8.Fault
import Chip8.Instruction.Basic
import Chip8.Opcode

/-!
# The encoding of instructions

`Instruction.encode` writes an instruction as an opcode, unused fields zero, and
`Instruction.decode?` reads one back. Decoding goes by the top digit and, inside the families that
share one, by the last digit or the low byte; an opcode of no form decodes to nothing, which
`Instruction.decodeAt` reports as a fault. The two one-word instructions `00E0` and `00EE` take
precedence over the calls of machine code `0NNN`, and the two shifts ignore their `y` field.
-/

namespace Chip8

namespace Opcode

/-- The opcode with top digit `k` and an address in its other three digits. -/
def addressed (k : UInt8) (a : UInt16) : Opcode :=
  ofWord (k.toUInt16 * 4096 + a)

/-- The opcode with top digit `k`, a register, and a constant in its low byte. -/
def immediate (k x nn : UInt8) : Opcode :=
  ⟨k * 16 + x, nn⟩

/-- The opcode with digits `k`, `x`, `y` and `n`. -/
def binary (k x y n : UInt8) : Opcode :=
  ⟨k * 16 + x, y * 16 + n⟩

end Opcode

namespace Instruction

/-- The opcode of an instruction whose operands fit their fields. -/
def encode : Instruction → Opcode
  | clearScreen => ⟨0x00, 0xE0⟩
  | ret => ⟨0x00, 0xEE⟩
  | sys a => .addressed 0x0 a
  | jump a => .addressed 0x1 a
  | call a => .addressed 0x2 a
  | skipIfEqual x n => .immediate 0x3 x n
  | skipIfNotEqual x n => .immediate 0x4 x n
  | skipIfSame x y => .binary 0x5 x y 0x0
  | set x n => .immediate 0x6 x n
  | increase x n => .immediate 0x7 x n
  | copy x y => .binary 0x8 x y 0x0
  | bitOr x y => .binary 0x8 x y 0x1
  | bitAnd x y => .binary 0x8 x y 0x2
  | bitXor x y => .binary 0x8 x y 0x3
  | add x y => .binary 0x8 x y 0x4
  | subtract x y => .binary 0x8 x y 0x5
  | shiftRight x => .binary 0x8 x 0x0 0x6
  | subtractFrom x y => .binary 0x8 x y 0x7
  | shiftLeft x => .binary 0x8 x 0x0 0xE
  | skipIfDifferent x y => .binary 0x9 x y 0x0
  | point a => .addressed 0xA a
  | jumpOffset a => .addressed 0xB a
  | random x n => .immediate 0xC x n
  | draw x y n => .binary 0xD x y n
  | skipIfPressed x => .immediate 0xE x 0x9E
  | skipIfReleased x => .immediate 0xE x 0xA1
  | readDelay x => .immediate 0xF x 0x07
  | waitForKey x => .immediate 0xF x 0x0A
  | setDelay x => .immediate 0xF x 0x15
  | setSound x => .immediate 0xF x 0x18
  | advance x => .immediate 0xF x 0x1E
  | pointToGlyph x => .immediate 0xF x 0x29
  | storeDecimal x => .immediate 0xF x 0x33
  | dump x => .immediate 0xF x 0x55
  | restore x => .immediate 0xF x 0x65

/-- The instructions with top digit 0. -/
def decodeSystem (op : Opcode) : Instruction :=
  match op.nnn.toNat with
  | 0x0E0 => clearScreen
  | 0x0EE => ret
  | _ => sys op.nnn

/-- The instructions with top digit 8, arithmetic on two registers. -/
def decodeArithmetic? (op : Opcode) : Option Instruction :=
  match op.n.toNat with
  | 0x0 => some (copy op.x op.y)
  | 0x1 => some (bitOr op.x op.y)
  | 0x2 => some (bitAnd op.x op.y)
  | 0x3 => some (bitXor op.x op.y)
  | 0x4 => some (add op.x op.y)
  | 0x5 => some (subtract op.x op.y)
  | 0x6 => some (shiftRight op.x)
  | 0x7 => some (subtractFrom op.x op.y)
  | 0xE => some (shiftLeft op.x)
  | _ => none

/-- The instructions with top digit E, on the keypad. -/
def decodeKey? (op : Opcode) : Option Instruction :=
  match op.nn.toNat with
  | 0x9E => some (skipIfPressed op.x)
  | 0xA1 => some (skipIfReleased op.x)
  | _ => none

/-- The instructions with top digit F, on one register and the rest of the machine. -/
def decodeTransfer? (op : Opcode) : Option Instruction :=
  match op.nn.toNat with
  | 0x07 => some (readDelay op.x)
  | 0x0A => some (waitForKey op.x)
  | 0x15 => some (setDelay op.x)
  | 0x18 => some (setSound op.x)
  | 0x1E => some (advance op.x)
  | 0x29 => some (pointToGlyph op.x)
  | 0x33 => some (storeDecimal op.x)
  | 0x55 => some (dump op.x)
  | 0x65 => some (restore op.x)
  | _ => none

/-- The instruction that an opcode stands for, if it stands for any. -/
def decode? (op : Opcode) : Option Instruction :=
  match op.family.toNat with
  | 0x0 => some (decodeSystem op)
  | 0x1 => some (jump op.nnn)
  | 0x2 => some (call op.nnn)
  | 0x3 => some (skipIfEqual op.x op.nn)
  | 0x4 => some (skipIfNotEqual op.x op.nn)
  | 0x5 => if op.n = 0 then some (skipIfSame op.x op.y) else none
  | 0x6 => some (set op.x op.nn)
  | 0x7 => some (increase op.x op.nn)
  | 0x8 => decodeArithmetic? op
  | 0x9 => if op.n = 0 then some (skipIfDifferent op.x op.y) else none
  | 0xA => some (point op.nnn)
  | 0xB => some (jumpOffset op.nnn)
  | 0xC => some (random op.x op.nn)
  | 0xD => some (draw op.x op.y op.n)
  | 0xE => decodeKey? op
  | 0xF => decodeTransfer? op
  | _ => none

/-- The instruction that the word at an address stands for, or the fault of its standing for none.
-/
def decodeAt (word pc : UInt16) : Except Fault Instruction :=
  match decode? (.ofWord word) with
  | some i => .ok i
  | none => .error (.unknownOpcode word pc)

end Instruction

end Chip8
