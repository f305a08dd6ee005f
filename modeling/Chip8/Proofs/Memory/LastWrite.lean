import Chip8.Proofs.Memory
import Mathlib.Data.List.Induction

/-!
# The last byte written

What is done to memory replaces a single byte, the bytes of a program, the font or everything. Each
operation gives a byte to some of the 4096 cells and leaves the others alone
(`MemoryOperation.byteFor?`), a program that does not fit to none. This is what it does to what is
read (`read_perform`), so after any operations each cell holds the last byte that one of them gave
to it (`read_performAll`).

An opcode is read as two bytes, each from its own cell, so that the second one is found at the start
of memory if the first is the last.
-/

namespace Chip8

/-- Something that can be done to memory. -/
inductive MemoryOperation where
  /-- Replace the byte at an address. -/
  | write (address : UInt16) (b : UInt8)
  /-- Place a program, if it fits. -/
  | load (program : List UInt8)
  /-- Place the font. -/
  | placeFont
  /-- Replace everything by zeros. -/
  | clear

namespace MemoryOperation

/-- The byte that an operation gives to a cell, if it covers the cell. -/
def byteFor? (c : Fin 4096) : MemoryOperation → Option UInt8
  | write a b => if a.toNat % 4096 = c then some b else none
  | load program => if 512 ≤ c.val ∧ program.length ≤ 3584 then program[c.val - 512]? else none
  | placeFont => font[c.val]?
  | clear => some 0

end MemoryOperation

/-- The high byte of an opcode counts 256 times. -/
theorem Opcode.toNat_toWord (op : Opcode) :
    op.toWord.toNat = 256 * op.high.toNat + op.low.toNat := by
  have hh := op.high.toNat_lt
  have hl := op.low.toNat_lt
  simp only [toWord, UInt16.toNat_add, UInt16.toNat_mul, UInt8.toNat_toUInt16, UInt16.reduceToNat]
  omega

namespace Memory

/-- Performs an operation. A program that does not fit leaves memory alone. -/
def perform (m : Memory) : MemoryOperation → Memory
  | .write a b => m.write a b
  | .load program =>
    match m.load program with
    | .ok m' => m'
    | .error _ => m
  | .placeFont => m.withFont
  | .clear => zeros

/-- Performs operations one after the other. -/
def performAll (m : Memory) (operations : List MemoryOperation) : Memory :=
  operations.foldl perform m

/-! ### One operation -/

theorem read_withFont (m : Memory) (a : UInt16) :
    m.withFont.read a = font[(cellOf a).val]?.getD (m.read a) := by
  have hoffset : offset 0 a = (cellOf a).val := by rw [offset, UInt16.sub_zero, cellOf]
  rw [withFont, read_writeBlock m 0 a (by decide), hoffset]

theorem read_initial (a : UInt16) : initial.read a = font[(cellOf a).val]?.getD 0 := by
  rw [initial, read_withFont, read_zeros]

theorem load_eq_error_iff {m : Memory} {program : List UInt8} :
    (∃ e, m.load program = .error e) ↔ 3584 < program.length := by
  constructor
  · rintro ⟨e, h⟩
    by_contra hle
    obtain ⟨after, hload, -⟩ := m.load_of_fits (Nat.le_of_not_lt hle)
    rw [hload] at h
    cases h
  · intro hlt
    exact ⟨_, m.load_of_not_fits hlt⟩

theorem read_perform_load (m : Memory) (program : List UInt8) (a : UInt16) :
    (m.perform (.load program)).read a
      = ((MemoryOperation.load program).byteFor? (cellOf a)).getD (m.read a) := by
  rw [MemoryOperation.byteFor?]
  by_cases hfits : program.length ≤ 3584
  · obtain ⟨after, hload, hplaced⟩ := m.load_of_fits hfits
    have hread : after.read a = _ := hplaced (cellOf a)
    simp only [perform, hload, hread, hfits, and_true]
    by_cases hstart : 512 ≤ (cellOf a).val
    · rw [if_pos hstart]
      split
      · next hinside => rw [List.getElem?_eq_getElem (by omega), Option.getD_some]
      · next houtside =>
        rw [List.getElem?_eq_none (by omega), Option.getD_none]
        rfl
    · rw [if_neg hstart, dif_neg fun h => hstart h.1]
      rfl
  · have hload := m.load_of_not_fits (Nat.lt_of_not_le hfits)
    simp only [perform, hload, hfits, and_false, if_false, Option.getD_none]

/-- Reading after an operation: the byte that it gives to the cell, and what was there before if it
does not cover the cell. -/
theorem read_perform (m : Memory) (op : MemoryOperation) (a : UInt16) :
    (m.perform op).read a = (op.byteFor? (cellOf a)).getD (m.read a) := by
  cases op with
  | write a' b =>
    have hcell : cellOf a' = cellOf a ↔ a'.toNat % 4096 = (cellOf a).val := Fin.ext_iff
    rw [perform, read_write, MemoryOperation.byteFor?]
    by_cases h : cellOf a' = cellOf a
    · rw [if_pos h, if_pos (hcell.1 h), Option.getD_some]
    · rw [if_neg h, if_neg (mt hcell.2 h), Option.getD_none]
  | load program => exact read_perform_load m program a
  | placeFont => exact read_withFont m a
  | clear => exact read_zeros a

/-! ### Operations one after the other -/

theorem read_performAll (m : Memory) (ops : List MemoryOperation) (a : UInt16) :
    (m.performAll ops).read a
      = (ops.filterMap (MemoryOperation.byteFor? (cellOf a))).getLast?.getD (m.read a) := by
  induction ops using List.reverseRecOn with
  | nil => rfl
  | append_singleton before op ih =>
    have hlast : m.performAll (before ++ [op]) = (m.performAll before).perform op :=
      List.foldl_append
    rw [hlast, read_perform, ih, List.filterMap_append]
    cases hbyte : op.byteFor? (cellOf a) with
    | none => simp [hbyte]
    | some b => simp [hbyte]

/-- Whatever has been done to memory since it was switched on, it has its 4096 cells, and at every
address the last byte is read that was given to the cell of this address. If none was, it is what
was there in the beginning, a byte of the font in the first 80 cells and else zero. A program is
refused, and then covers no cell, iff it has more than 3584 bytes. An opcode is the byte at an
address and the one at the address after it, which is 0 after the last one. -/
theorem reads_last_byte_given (ops : List MemoryOperation) :
    let m := initial.performAll ops
    m.cells.toList.length = 4096 ∧ font.length = 80 ∧
      (∀ a, m.read a
        = (ops.filterMap (MemoryOperation.byteFor? (cellOf a))).getLast?.getD
            (font[a.toNat % 4096]?.getD 0)) ∧
      (∀ program, (∃ e, m.load program = .error e) ↔ 3584 < program.length) ∧
      ∀ a, (m.opcodeAt a).toWord.toNat
        = 256 * (m.read a).toNat + (m.read (UInt16.ofNat ((a.toNat + 1) % 65536))).toNat := by
  intro m
  refine ⟨Vector.length_toList, rfl, fun a => ?_, fun program => load_eq_error_iff, fun a => ?_⟩
  · rw [read_performAll, read_initial]
    rfl
  · have hnext : UInt16.ofNat ((a.toNat + 1) % 65536) = a + 1 := by
      apply UInt16.toNat_inj.1
      rw [UInt16.toNat_ofNat', UInt16.toNat_add]
      exact Nat.mod_mod _ _
    rw [hnext, Opcode.toNat_toWord]
    rfl

/-- Addresses that name the same cell are the same place, and the byte after the last cell is that
of the first one. -/
example :
    let m := initial.performAll
      [.write 0xFFF 0x12, .clear, .write 0x1FFF 0x34, .write 0x3000 0x56,
        .load (List.replicate 3585 0)]
    (m.opcodeAt 0xFFFF).toWord = 0x3456 := by
  decide +kernel

end Memory

end Chip8
