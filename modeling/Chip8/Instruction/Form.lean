import Chip8.Instruction.Basic
import Chip8.Opcode

/-!
# The forms of opcodes

The instruction set is documented by one form for each instruction: the four hexadecimal digits of
its opcodes, of which some are fixed and the others hold operands. `Instruction.form` is this table,
and `Opcode.Legal` says that an opcode has one of the forms in it. Forms overlap: `00E0` and `00EE`
also have the form `0NNN` of the calls of machine code, which they shadow (`Instruction.Shadowed`).

An instruction has an opcode if its operands fit into its form (`Instruction.OperandsFit`). Two
forms have a digit that is neither fixed nor an operand (`Opcode.IgnoresY`).
-/

namespace Chip8

/-- A form of opcodes. A digit that is not given holds part of an operand. -/
structure Form where
  /-- The top digit, which every form fixes. -/
  family : Nat
  /-- The second digit. -/
  x : Option Nat
  /-- The third digit. -/
  y : Option Nat
  /-- The last digit. -/
  n : Option Nat
deriving DecidableEq, Repr

/-- An opcode has a form if its digits are those that the form fixes. -/
structure Opcode.Fits (op : Opcode) (f : Form) : Prop where
  family : op.family.toNat = f.family
  x : ∀ d ∈ f.x, op.x.toNat = d
  y : ∀ d ∈ f.y, op.y.toNat = d
  n : ∀ d ∈ f.n, op.n.toNat = d

/-- The form of the opcodes of an instruction. -/
def Instruction.form : Instruction → Form
  | clearScreen => ⟨0x0, some 0x0, some 0xE, some 0x0⟩
  | ret => ⟨0x0, some 0x0, some 0xE, some 0xE⟩
  | sys _ => ⟨0x0, none, none, none⟩
  | jump _ => ⟨0x1, none, none, none⟩
  | call _ => ⟨0x2, none, none, none⟩
  | skipIfEqual .. => ⟨0x3, none, none, none⟩
  | skipIfNotEqual .. => ⟨0x4, none, none, none⟩
  | skipIfSame .. => ⟨0x5, none, none, some 0x0⟩
  | set .. => ⟨0x6, none, none, none⟩
  | increase .. => ⟨0x7, none, none, none⟩
  | copy .. => ⟨0x8, none, none, some 0x0⟩
  | bitOr .. => ⟨0x8, none, none, some 0x1⟩
  | bitAnd .. => ⟨0x8, none, none, some 0x2⟩
  | bitXor .. => ⟨0x8, none, none, some 0x3⟩
  | add .. => ⟨0x8, none, none, some 0x4⟩
  | subtract .. => ⟨0x8, none, none, some 0x5⟩
  | shiftRight _ => ⟨0x8, none, none, some 0x6⟩
  | subtractFrom .. => ⟨0x8, none, none, some 0x7⟩
  | shiftLeft _ => ⟨0x8, none, none, some 0xE⟩
  | skipIfDifferent .. => ⟨0x9, none, none, some 0x0⟩
  | point _ => ⟨0xA, none, none, none⟩
  | jumpOffset _ => ⟨0xB, none, none, none⟩
  | random .. => ⟨0xC, none, none, none⟩
  | draw .. => ⟨0xD, none, none, none⟩
  | skipIfPressed _ => ⟨0xE, none, some 0x9, some 0xE⟩
  | skipIfReleased _ => ⟨0xE, none, some 0xA, some 0x1⟩
  | readDelay _ => ⟨0xF, none, some 0x0, some 0x7⟩
  | waitForKey _ => ⟨0xF, none, some 0x0, some 0xA⟩
  | setDelay _ => ⟨0xF, none, some 0x1, some 0x5⟩
  | setSound _ => ⟨0xF, none, some 0x1, some 0x8⟩
  | advance _ => ⟨0xF, none, some 0x1, some 0xE⟩
  | pointToGlyph _ => ⟨0xF, none, some 0x2, some 0x9⟩
  | storeDecimal _ => ⟨0xF, none, some 0x3, some 0x3⟩
  | dump _ => ⟨0xF, none, some 0x5, some 0x5⟩
  | restore _ => ⟨0xF, none, some 0x6, some 0x5⟩

/-- An opcode is legal if it has the form of some instruction. -/
def Opcode.Legal (op : Opcode) : Prop :=
  ∃ i : Instruction, op.Fits i.form

/-- The operands of an instruction fit into its form: an address into three digits, a register or
the number of rows of a sprite into one. -/
def Instruction.OperandsFit : Instruction → Prop
  | clearScreen | ret => True
  | sys a | jump a | call a | point a | jumpOffset a => a.toNat ≤ 0xFFF
  | skipIfEqual x _ | skipIfNotEqual x _ | set x _ | increase x _ | random x _ | shiftRight x
  | shiftLeft x | skipIfPressed x | skipIfReleased x | readDelay x | waitForKey x | setDelay x
  | setSound x | advance x | pointToGlyph x | storeDecimal x | dump x | restore x => x.toNat ≤ 0xF
  | skipIfSame x y | skipIfDifferent x y | copy x y | bitOr x y | bitAnd x y | bitXor x y | add x y
  | subtract x y | subtractFrom x y => x.toNat ≤ 0xF ∧ y.toNat ≤ 0xF
  | draw x y n => x.toNat ≤ 0xF ∧ y.toNat ≤ 0xF ∧ n.toNat ≤ 0xF

/-- The opcode of an instruction is that of another one, which takes precedence. -/
def Instruction.Shadowed : Instruction → Prop
  | sys a => a = 0x0E0 ∨ a = 0x0EE
  | _ => False

/-- The third digit of an opcode is ignored, because it has the form `8XY6` or `8XYE` of a shift. -/
def Opcode.IgnoresY (op : Opcode) : Prop :=
  op.family.toNat = 0x8 ∧ (op.n.toNat = 0x6 ∨ op.n.toNat = 0xE)

instance (op : Opcode) : Decidable op.IgnoresY :=
  inferInstanceAs (Decidable (_ ∧ _))

/-- The opcode with zero for its third digit if that is ignored. -/
def Opcode.withoutIgnored (op : Opcode) : Opcode :=
  if op.IgnoresY then ⟨op.high, op.n⟩ else op

end Chip8
