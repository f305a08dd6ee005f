import Chip8.Fault
import Chip8.Font
import Chip8.Opcode

/-!
# Memory

The machine addresses 4096 bytes with 16-bit addresses of which only the low 12 bits count, so every
read and every write lands somewhere: `read` and `write` are total, and addresses that are congruent
modulo 4096 name the same byte. The font occupies the start of memory and a program is placed at
`programStart`, whole or not at all (`load`).
-/

namespace Chip8

/-- Where programs are placed, and where execution starts. -/
def programStart : UInt16 := 0x200

/-- The size of the largest program, one that ends where memory does. -/
def programLimit : Nat := 4096 - 0x200

/-- The contents of memory. -/
structure Memory where
  /-- The bytes in the order of their addresses. -/
  cells : Vector UInt8 4096
deriving DecidableEq

namespace Memory

/-- The byte that an address names. -/
def cellOf (a : UInt16) : Fin 4096 :=
  ⟨a.toNat % 4096, Nat.mod_lt _ (by decide)⟩

/-- The byte at an address. -/
def read (m : Memory) (a : UInt16) : UInt8 :=
  m.cells[cellOf a]

/-- Replaces the byte at an address. -/
def write (m : Memory) (a : UInt16) (b : UInt8) : Memory :=
  ⟨m.cells.set (cellOf a).val b (cellOf a).isLt⟩

/-- Reading after a write: the written byte at every address of that cell, and else what was there
before. -/
theorem read_write (m : Memory) (a c : UInt16) (b : UInt8) :
    (m.write a b).read c = if cellOf a = cellOf c then b else m.read c := by
  simp only [read, write, Fin.getElem_fin, Vector.getElem_set, Fin.ext_iff]

/-- The opcode at an address: the byte there and the one after it. -/
def opcodeAt (m : Memory) (a : UInt16) : Opcode :=
  ⟨m.read a, m.read (a + 1)⟩

/-- The `n` bytes from an address on. -/
def readBlock (m : Memory) (a : UInt16) (n : Nat) : List UInt8 :=
  (List.range n).map fun k => m.read (a + UInt16.ofNat k)

/-- Replaces the bytes from an address on, the first one first. -/
def writeBlock (m : Memory) (a : UInt16) : List UInt8 → Memory
  | [] => m
  | b :: rest => (m.write a b).writeBlock (a + 1) rest

/-- Zeros throughout. -/
def zeros : Memory :=
  ⟨Vector.replicate 4096 0⟩

@[simp]
theorem read_zeros (a : UInt16) : zeros.read a = 0 := by
  simp [read, zeros, Fin.getElem_fin]

/-- Places the font at the start of memory. -/
def withFont (m : Memory) : Memory :=
  m.writeBlock 0 font

/-- Memory when the machine is switched on: zeros but for the font. -/
def initial : Memory :=
  zeros.withFont

/-- Places a program at `programStart`, unless it is too large to fit. The rest of memory keeps its
contents, also where a longer program stood before. -/
def load (m : Memory) (program : List UInt8) : Except LoadError Memory :=
  if program.length ≤ programLimit then
    .ok (m.writeBlock programStart program)
  else
    .error (.tooLarge program.length programLimit)

/-- How many bytes are not zero. -/
def used (m : Memory) : Nat :=
  m.cells.countP (· != 0)

/-- A summary for diagnostics. -/
def describe (m : Memory) : String :=
  "Memory \x7b " ++ Text.decimal m.used ++ " of 4096 bytes non-zero \x7d"

end Memory

end Chip8
