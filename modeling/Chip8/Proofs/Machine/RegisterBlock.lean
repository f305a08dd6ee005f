import Chip8.Machine.Execute
import Chip8.Proofs.Memory
import Chip8.Proofs.Registers

/-!
# Registers in memory

The registers up to one that an operand names are dumped to a block of at most 16 bytes at the
address register and restored from such a block. The bytes of a block lie in different cells,
wherever it starts and also where it goes on at the start of memory. So a register is dumped to the
cell that it is restored from (`read_dumpedMemory`, `get_restoredRegisters`), and the two undo each
other.
-/

namespace Chip8.Machine

variable (m : Machine) (x : UInt8)

/-- Memory once the registers up to `vx` have been dumped. -/
def dumpedMemory : Memory :=
  m.memory.writeBlock m.i (m.v.upTo x)

/-- The bytes in memory for the registers up to `vx`. -/
def registerBlock : List UInt8 :=
  m.memory.readBlock m.i ((Registers.slotOf x).val + 1)

/-- The registers once those up to `vx` have been restored. -/
def restoredRegisters : Registers :=
  m.v.setFrom 0 (m.registerBlock x)

theorem length_registerBlock : (m.registerBlock x).length = x.toNat % 16 + 1 :=
  Memory.length_readBlock ..

theorem length_upTo_le : (m.v.upTo x).length ≤ 4096 := by
  rw [Registers.length_upTo]
  omega

/-- A register that is dumped is found in the cell of its place in the block. -/
theorem read_dumpedMemory {r : UInt8} (h : r.toNat % 16 ≤ x.toNat % 16) :
    (m.dumpedMemory x).read (m.i + UInt16.ofNat (r.toNat % 16)) = m.v.get r := by
  have hr : r.toNat % 16 < (m.v.upTo x).length := by
    rw [Registers.length_upTo]
    omega
  have hslot : (UInt8.ofNat (r.toNat % 16)).toNat % 16 = r.toNat % 16 :=
    Registers.slotOf_ofNat (Nat.mod_lt _ (by decide))
  rw [dumpedMemory, Memory.read_writeBlock_add _ _ (m.length_upTo_le x) hr, Registers.getElem_upTo]
  exact Registers.get_congr m.v hslot

/-- No cell but those of the block is written. -/
theorem read_dumpedMemory_of_not_reached {c : UInt16}
    (hc : ∀ k ≤ x.toNat % 16, (m.i.toNat + k) % 4096 ≠ c.toNat % 4096) :
    (m.dumpedMemory x).read c = m.memory.read c := by
  refine Memory.read_writeBlock_of_not_reached _ _ (m.length_upTo_le x) fun k hk => hc k ?_
  rw [Registers.length_upTo] at hk
  exact Nat.le_of_lt_succ hk

/-- A register that is restored is read from the cell of its place in the block, and no other
register is touched. -/
theorem get_restoredRegisters (r : UInt8) :
    (m.restoredRegisters x).get r =
      if r.toNat % 16 ≤ x.toNat % 16 then m.memory.read (m.i + UInt16.ofNat (r.toNat % 16))
      else m.v.get r := by
  have hlength := m.length_registerBlock x
  rw [restoredRegisters, Registers.get_setFrom_zero _ (by omega)]
  split
  · next h =>
    rw [List.getElem?_eq_getElem (by omega), Option.getD_some]
    exact Memory.getElem_readBlock _ _ _
  · next h => rw [List.getElem?_eq_none (by omega), Option.getD_none]

/-- Registers that were restored and are dumped again leave memory as it is. -/
theorem dumpedMemory_restoredRegisters :
    { m with v := m.restoredRegisters x }.dumpedMemory x = m.memory := by
  have hslot := (Registers.slotOf x).isLt
  rw [dumpedMemory, restoredRegisters, Registers.upTo_setFrom_zero _ (m.length_registerBlock x)]
  exact Memory.writeBlock_readBlock _ _ (by omega)

/-- Dumping and restoring undo each other, wherever the block is. What was dumped up to `vx` may be
restored up to any `vy` among it, whatever has become of the registers in between, and those after
`vy` and the address register are left alone. Only cells of the block are written. And what has just
been restored may be dumped without any change to memory. -/
theorem dump_and_restore_invert (m : Machine) (x : UInt8) :
    (∃ dumped, m.execute (.dump x) = .ok dumped ∧ dumped.i = m.i ∧
      (∀ c, (∀ k ≤ x.toNat % 16, (m.i.toNat + k) % 4096 ≠ c.toNat % 4096) →
        dumped.memory.read c = m.memory.read c) ∧
      ∀ (changed : Machine) (y : UInt8), changed.i = dumped.i → changed.memory = dumped.memory →
        y.toNat % 16 ≤ x.toNat % 16 →
        ∃ restored, changed.execute (.restore y) = .ok restored ∧
          (∀ r, r.toNat % 16 ≤ y.toNat % 16 → restored.v.get r = m.v.get r) ∧
          (∀ r, y.toNat % 16 < r.toNat % 16 → restored.v.get r = changed.v.get r) ∧
          restored.i = m.i) ∧
      ∃ restored back, m.execute (.restore x) = .ok restored ∧
        restored.execute (.dump x) = .ok back ∧ back.memory = m.memory := by
  constructor
  · refine ⟨_, rfl, rfl, fun c hc => m.read_dumpedMemory_of_not_reached x hc, ?_⟩
    intro changed y hi hmemory hyx
    have hblock (r : UInt8) (hr : r.toNat % 16 ≤ y.toNat % 16) :
        changed.memory.read (changed.i + UInt16.ofNat (r.toNat % 16)) = m.v.get r := by
      rw [hi, hmemory]
      exact m.read_dumpedMemory x (Nat.le_trans hr hyx)
    refine ⟨_, rfl, fun r hr => ?_, fun r hr => ?_, hi⟩
    · refine (changed.get_restoredRegisters y r).trans ?_
      rw [if_pos hr, hblock r hr]
    · refine (changed.get_restoredRegisters y r).trans ?_
      rw [if_neg (Nat.not_le_of_lt hr)]
  · exact ⟨_, _, rfl, rfl, m.dumpedMemory_restoredRegisters x⟩

/-- From `0xFFFA` on, all registers are dumped to the last six bytes of memory and the first ten.
The first eight are restored after all have been cleared. -/
theorem dump_and_restore_invert_of_wrapped :
    let m : Machine := { initial (.ofSeed 0) with
      i := 0xFFFA
      v := (Registers.zeros.set 7 70).set 8 80 }
    ∃ dumped restored, m.execute (.dump 0x1F) = .ok dumped ∧
      { dumped with v := .zeros }.execute (.restore 0x27) = .ok restored ∧
      restored.v.get 7 = 70 ∧ restored.v.get 8 = 0 ∧
      dumped.memory.read 10 = m.memory.read 10 := by
  intro m
  obtain ⟨⟨dumped, hdump, -, hkept, hrestore⟩, -⟩ := dump_and_restore_invert m 0x1F
  obtain ⟨restored, hrestored, hfirst, hlater, -⟩ :=
    hrestore { dumped with v := .zeros } 0x27 rfl rfl (by decide)
  refine ⟨dumped, restored, hdump, hrestored, ?_, ?_, hkept 10 ?_⟩
  · rw [hfirst 7 (by decide)]
    decide
  · rw [hlater 8 (by decide)]
    exact Registers.get_zeros 8
  · show ∀ k ≤ 15, (65530 + k) % 4096 ≠ 10
    omega

end Chip8.Machine
