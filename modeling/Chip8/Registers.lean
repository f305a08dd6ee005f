/-!
# Registers and timers

The sixteen byte registers `v0` to `vF` and the two timers. A register operand counts modulo 16, so
every byte names a register. The last register, `flag`, also receives the carry, borrow and
collision results of instructions.
-/

namespace Chip8

/-- The values of the registers `v0` to `vF`. -/
structure Registers where
  /-- The values in order. -/
  values : Vector UInt8 16
deriving DecidableEq

namespace Registers

/-- The register that an operand names. -/
def slotOf (x : UInt8) : Fin 16 :=
  ⟨x.toNat % 16, Nat.mod_lt _ (by decide)⟩

/-- The value of register `x`. -/
def get (r : Registers) (x : UInt8) : UInt8 :=
  r.values[slotOf x]

/-- Replaces the value of register `x`. -/
def set (r : Registers) (x b : UInt8) : Registers :=
  ⟨r.values.set (slotOf x).val b (slotOf x).isLt⟩

/-- Register `y` after register `x` has been set. -/
theorem get_set (r : Registers) (x y b : UInt8) :
    (r.set x b).get y = if slotOf x = slotOf y then b else r.get y := by
  simp only [get, set, Fin.getElem_fin, Vector.getElem_set, Fin.ext_iff]

/-- The register that receives carries, borrows and collisions. -/
def flag : UInt8 := 0xF

/-- Replaces the value of the flag register by 1 or 0. -/
def setFlag (r : Registers) (condition : Bool) : Registers :=
  r.set flag condition.toUInt8

/-- All registers zero. -/
def zeros : Registers :=
  ⟨Vector.replicate 16 0⟩

@[simp]
theorem get_zeros (x : UInt8) : zeros.get x = 0 := by
  simp [get, zeros, Fin.getElem_fin]

/-- The values of the registers `v0` to `vx`, `x` counted modulo 16. -/
def upTo (r : Registers) (x : UInt8) : List UInt8 :=
  r.values.toList.take ((slotOf x).val + 1)

/-- Replaces the values of the registers from `vx` on, the first one first. -/
def setFrom (r : Registers) (x : UInt8) : List UInt8 → Registers
  | [] => r
  | b :: rest => (r.set x b).setFrom (x + 1) rest

end Registers

/-- The delay timer, which programs read back, and the sound timer, which sounds until it is 0. -/
structure Timers where
  /-- The delay timer. -/
  delay : UInt8
  /-- The sound timer. -/
  sound : UInt8
deriving DecidableEq, Repr

namespace Timers

/-- Both timers at rest. -/
def zeros : Timers := ⟨0, 0⟩

/-- One less, but not below zero. -/
def countDown (t : UInt8) : UInt8 :=
  if t = 0 then 0 else t - 1

/-- Counting down is the subtraction of one that stops at zero. -/
theorem toNat_countDown (t : UInt8) : (countDown t).toNat = t.toNat - 1 := by
  unfold countDown
  split
  · next h => simp [h]
  · next h =>
    have ht : t.toNat ≠ 0 := fun e => h (UInt8.toNat_inj.1 e)
    rw [UInt8.toNat_sub_of_le _ _ (UInt8.le_iff_toNat_le.2 (by simp; omega))]
    rfl

/-- Counts both timers down by one. -/
def tick (t : Timers) : Timers :=
  ⟨countDown t.delay, countDown t.sound⟩

end Timers

end Chip8
