import Chip8.Text.Record

/-!
# Instructions

The instruction set as an inductive type, one constructor for each of its 35 forms. Register
operands, constants and addresses are plain words: an opcode can only produce registers below 16,
addresses below 4096 and sprites of at most 15 rows, but a caller may hand the machine any operand,
and what it does then is part of its behaviour.

`describe` is the text of an instruction in execution traces, its name applied to its operands.
-/

namespace Chip8

/-- One instruction of the machine. -/
inductive Instruction where
  /-- Call a routine in the host's own machine code, of which there is none here. -/
  | sys (address : UInt16)
  /-- Turn every pixel off. -/
  | clearScreen
  /-- Return from a subroutine. -/
  | ret
  /-- Continue at an address. -/
  | jump (address : UInt16)
  /-- Call the subroutine at an address. -/
  | call (address : UInt16)
  /-- Skip the following instruction if `vx = n`. -/
  | skipIfEqual (x n : UInt8)
  /-- Skip the following instruction if `vx ≠ n`. -/
  | skipIfNotEqual (x n : UInt8)
  /-- Skip the following instruction if `vx = vy`. -/
  | skipIfSame (x y : UInt8)
  /-- Skip the following instruction if `vx ≠ vy`. -/
  | skipIfDifferent (x y : UInt8)
  /-- `vx := n` -/
  | set (x n : UInt8)
  /-- `vx := vx + n`, leaving the flag alone. -/
  | increase (x n : UInt8)
  /-- `vx := vy` -/
  | copy (x y : UInt8)
  /-- `vx := vx or vy`, bit by bit. -/
  | bitOr (x y : UInt8)
  /-- `vx := vx and vy`, bit by bit. -/
  | bitAnd (x y : UInt8)
  /-- `vx := vx xor vy`, bit by bit. -/
  | bitXor (x y : UInt8)
  /-- `vx := vx + vy`, the flag telling of a carry. -/
  | add (x y : UInt8)
  /-- `vx := vx - vy`, the flag telling that nothing was borrowed. -/
  | subtract (x y : UInt8)
  /-- `vx := vy - vx`, the flag telling that nothing was borrowed. -/
  | subtractFrom (x y : UInt8)
  /-- Halve `vx`, the flag taking the bit shifted out. -/
  | shiftRight (x : UInt8)
  /-- Double `vx`, the flag taking the bit shifted out. -/
  | shiftLeft (x : UInt8)
  /-- Point the address register at an address. -/
  | point (address : UInt16)
  /-- Continue at an address plus `v0`. -/
  | jumpOffset (address : UInt16)
  /-- `vx :=` a random byte masked by `n`. -/
  | random (x n : UInt8)
  /-- Draw the sprite of `n` rows at the address register with its corner at `(vx, vy)`. -/
  | draw (x y n : UInt8)
  /-- Skip the following instruction if the key `vx` is down. -/
  | skipIfPressed (x : UInt8)
  /-- Skip the following instruction unless the key `vx` is down. -/
  | skipIfReleased (x : UInt8)
  /-- `vx :=` the delay timer. -/
  | readDelay (x : UInt8)
  /-- Wait until some key is down, and store it in `vx`. -/
  | waitForKey (x : UInt8)
  /-- Set the delay timer to `vx`. -/
  | setDelay (x : UInt8)
  /-- Set the sound timer to `vx`. -/
  | setSound (x : UInt8)
  /-- Advance the address register by `vx`. -/
  | advance (x : UInt8)
  /-- Point the address register at the built-in glyph of the digit `vx`. -/
  | pointToGlyph (x : UInt8)
  /-- Write the three decimal digits of `vx` at the address register. -/
  | storeDecimal (x : UInt8)
  /-- Write the registers `v0` to `vx` at the address register. -/
  | dump (x : UInt8)
  /-- Read the registers `v0` to `vx` at the address register. -/
  | restore (x : UInt8)
deriving DecidableEq, Repr

namespace Instruction

/-! ### Trace text -/

/-- A register operand in a trace. -/
def registerText (x : UInt8) : String := Text.application "Reg" [Text.decimal x.toNat]

/-- A constant operand in a trace. -/
def constantText (n : UInt8) : String := Text.application "Const" [Text.decimal n.toNat]

/-- An address operand in a trace. -/
def addressText (a : UInt16) : String := Text.application "Addr" [Text.decimal a.toNat]

/-- The text of an instruction on one register. -/
def unaryText (name : String) (x : UInt8) : String :=
  Text.application name [registerText x]

/-- The text of an instruction on two registers. -/
def binaryText (name : String) (x y : UInt8) : String :=
  Text.application name [registerText x, registerText y]

/-- The text of an instruction on a register and a constant. -/
def immediateText (name : String) (x n : UInt8) : String :=
  Text.application name [registerText x, constantText n]

/-- The text of an instruction on an address. -/
def addressedText (name : String) (a : UInt16) : String :=
  Text.application name [addressText a]

/-- The text of an instruction in an execution trace. -/
def describe : Instruction → String
  | sys a => addressedText "Sys" a
  | clearScreen => "ClearScreen"
  | ret => "Return"
  | jump a => addressedText "Goto" a
  | call a => addressedText "Call" a
  | skipIfEqual x n => immediateText "IfRegEqConst" x n
  | skipIfNotEqual x n => immediateText "IfRegNeqConst" x n
  | skipIfSame x y => binaryText "IfRegEqReg" x y
  | skipIfDifferent x y => binaryText "IfRegNeqReg" x y
  | set x n => immediateText "SetRegToConst" x n
  | increase x n => immediateText "IncRegByConst" x n
  | copy x y => binaryText "SetRegToReg" x y
  | bitOr x y => binaryText "BitwiseOr" x y
  | bitAnd x y => binaryText "BitwiseAnd" x y
  | bitXor x y => binaryText "BitwiseXor" x y
  | add x y => binaryText "IncRegByReg" x y
  | subtract x y => binaryText "DecRegByReg" x y
  | subtractFrom x y => binaryText "SetVxVyMinusVx" x y
  | shiftRight x => unaryText "BitshiftRight" x
  | shiftLeft x => unaryText "BitshiftLeft" x
  | point a => addressedText "SetI" a
  | jumpOffset a => addressedText "SetPcToV0PlusAddr" a
  | random x n => immediateText "SetVxRand" x n
  | draw x y n => Text.application "Draw" [registerText x, registerText y, constantText n]
  | skipIfPressed x => unaryText "IfKeyPressed" x
  | skipIfReleased x => unaryText "IfKeyNotPressed" x
  | readDelay x => unaryText "SetRegToDelayTimer" x
  | waitForKey x => unaryText "WaitForKey" x
  | setDelay x => unaryText "SetDelayTimerToReg" x
  | setSound x => unaryText "SetSoundTimerToReg" x
  | advance x => unaryText "AddRegToI" x
  | pointToGlyph x => unaryText "SetIToSpriteAddrVx" x
  | storeDecimal x => unaryText "SetIToBcdOfReg" x
  | dump x => unaryText "RegDump" x
  | restore x => unaryText "RegLoad" x

end Instruction

end Chip8
