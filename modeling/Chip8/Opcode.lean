import Chip8.Text.Record

/-!
# Opcodes

An opcode is two bytes, and an instruction reads it through overlapping fields: with the four
hexadecimal digits written `kxyn`, the top digit `k` selects the family of the instruction, `x` and
`y` name registers, `n` is the last digit, `nn` the low byte, and `nnn` the last three digits, an
address. Each field is a remainder or a quotient by a power of two.
-/

namespace Chip8

/-- An instruction word, high byte first. -/
structure Opcode where
  /-- The byte at the lower address. -/
  high : UInt8
  /-- The byte after it. -/
  low : UInt8
deriving DecidableEq, Repr

namespace Opcode

/-- Splits a 16-bit word into its two bytes. -/
def ofWord (w : UInt16) : Opcode :=
  ⟨(w / 256).toUInt8, w.toUInt8⟩

/-- The word as one 16-bit number. -/
def toWord (op : Opcode) : UInt16 :=
  op.high.toUInt16 * 256 + op.low.toUInt16

/-- Splitting a word and putting it together again changes nothing. -/
@[simp]
theorem toWord_ofWord (w : UInt16) : (ofWord w).toWord = w := by
  apply UInt16.toNat_inj.1
  have hw := w.toNat_lt
  simp [ofWord, toWord]
  omega

/-- An opcode is determined by its word. -/
@[simp]
theorem ofWord_toWord (op : Opcode) : ofWord op.toWord = op := by
  obtain ⟨high, low⟩ := op
  have hh := high.toNat_lt
  have hl := low.toNat_lt
  simp only [ofWord, toWord, Opcode.mk.injEq]
  constructor
  · apply UInt8.toNat_inj.1
    simp
    omega
  · apply UInt8.toNat_inj.1
    simp

/-- The top digit, which selects the family of the instruction. -/
def family (op : Opcode) : UInt8 := op.high / 16

/-- The second digit, the first register operand. -/
def x (op : Opcode) : UInt8 := op.high % 16

/-- The third digit, the second register operand. -/
def y (op : Opcode) : UInt8 := op.low / 16

/-- The last digit. -/
def n (op : Opcode) : UInt8 := op.low % 16

/-- The low byte. -/
def nn (op : Opcode) : UInt8 := op.low

/-- The last three digits, an address below 4096. -/
def nnn (op : Opcode) : UInt16 := op.x.toUInt16 * 256 + op.low.toUInt16

/-- The four digits, most significant first. -/
def digits (op : Opcode) : List UInt8 :=
  [op.family, op.x, op.y, op.n]

/-- The two bytes for diagnostics. -/
def describe (op : Opcode) : String :=
  Text.application "BitSplitter" [Text.decimal op.high.toNat, Text.decimal op.low.toNat]

end Opcode

end Chip8
