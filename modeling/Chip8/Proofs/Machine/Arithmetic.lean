import Chip8.Proofs.Machine.Atomicity
import Chip8.Proofs.Registers
import Mathlib.Data.Int.Notation

/-!
# Arithmetic and its flag

Five instructions compute with the numbers in `vx` and `vy` and report in the flag
(`FlagArithmetic`): whether a sum was carried, whether nothing was borrowed for a difference, or the
bit that was shifted out. Destination, operand and flag may be the same register. As both numbers
are read before anything is written, and the flag is written last, what is written comes from the
numbers before the instruction (`exists_execute_flagArithmetic`), and where the destination is the
flag, only the flag survives (`Registers.get_setFlag_set`).

The two instructions that add to a register or to the address register and report nothing leave the
flag alone.
-/

namespace Chip8

/-- The arithmetic that reports in the flag. -/
inductive FlagArithmetic where
  /-- `vx + vy`, and whether there was a carry. -/
  | add
  /-- `vx - vy`, and whether there was no borrow. -/
  | subtract
  /-- Half of `vx`, and the bit shifted out. -/
  | shiftRight
  /-- `vy - vx`, and whether there was no borrow. -/
  | subtractFrom
  /-- Twice `vx`, and the bit shifted out. -/
  | shiftLeft
deriving DecidableEq, Repr

namespace FlagArithmetic

/-- The instruction that computes with `vx` and `vy`, of which the shifts ignore the second. -/
def instruction (x y : UInt8) : FlagArithmetic → Instruction
  | add => .add x y
  | subtract => .subtract x y
  | shiftRight => .shiftRight x
  | subtractFrom => .subtractFrom x y
  | shiftLeft => .shiftLeft x

/-- The number for `vx` if `a` and `b` are the numbers in `vx` and `vy`. -/
def result (a b : ℤ) : FlagArithmetic → ℤ
  | add => (a + b) % 256
  | subtract => (a - b) % 256
  | shiftRight => a / 2
  | subtractFrom => (b - a) % 256
  | shiftLeft => 2 * a % 256

/-- The number for the flag if `a` and `b` are the numbers in `vx` and `vy`. -/
def flag (a b : ℤ) : FlagArithmetic → ℤ
  | add => if a + b > 255 then 1 else 0
  | subtract => if b ≤ a then 1 else 0
  | shiftRight => a % 2
  | subtractFrom => if a ≤ b then 1 else 0
  | shiftLeft => a / 128

end FlagArithmetic

/-! ### Bytes as integers -/

theorem toNat_add_cast (a b : UInt8) : ((a + b).toNat : ℤ) = ((a.toNat : ℤ) + b.toNat) % 256 := by
  rw [UInt8.toNat_add]
  omega

theorem toNat_sub_cast (a b : UInt8) : ((a - b).toNat : ℤ) = ((a.toNat : ℤ) - b.toNat) % 256 := by
  have hb := b.toNat_lt
  rw [UInt8.toNat_sub]
  omega

theorem toNat_shiftRight_one (a : UInt8) : ((a >>> 1).toNat : ℤ) = (a.toNat : ℤ) / 2 := by
  rw [UInt8.toNat_shiftRight, Nat.shiftRight_eq_div_pow]
  rfl

theorem toNat_shiftLeft_one (a : UInt8) : ((a <<< 1).toNat : ℤ) = 2 * (a.toNat : ℤ) % 256 := by
  rw [UInt8.toNat_shiftLeft, Nat.shiftLeft_eq, Nat.mul_comm]
  rfl

/-- A condition as a number is 1 exactly where it holds. -/
theorem toNat_toUInt8 {condition : Bool} {n : ℤ} (hn : n = 0 ∨ n = 1)
    (h : condition = true ↔ n = 1) : (condition.toUInt8.toNat : ℤ) = n := by
  cases condition with
  | false =>
    have hne : n ≠ 1 := fun hone => Bool.false_ne_true (h.2 hone)
    exact (hn.resolve_right hne).symm
  | true => exact (h.1 rfl).symm

theorem toNat_toUInt8_decide {p q : Prop} [Decidable p] [Decidable q] (h : p ↔ q) :
    ((decide p).toUInt8.toNat : ℤ) = if q then 1 else 0 := by
  refine toNat_toUInt8 ?_ ?_
  · by_cases hq : q
    · exact .inr (if_pos hq)
    · exact .inl (if_neg hq)
  · rw [decide_eq_true_iff, h]
    simp

namespace Machine

/-- A machine whose arithmetic is done: the result and the flag are written one after the other, and
both come from the numbers that the registers held before. -/
theorem exists_execute_flagArithmetic (m : Machine) (x y : UInt8) (c : FlagArithmetic) :
    ∃ b condition, m.execute (c.instruction x y) = .ok (m.putFlagged x b condition).next ∧
      (b.toNat : ℤ) = c.result (m.v.get x).toNat (m.v.get y).toNat ∧
      (condition.toUInt8.toNat : ℤ) = c.flag (m.v.get x).toNat (m.v.get y).toNat := by
  have ha := (m.v.get x).toNat_lt
  cases c with
  | add =>
    refine ⟨_, _, rfl, toNat_add_cast _ _, toNat_toUInt8_decide ?_⟩
    omega
  | subtract =>
    refine ⟨_, _, rfl, toNat_sub_cast _ _, toNat_toUInt8_decide ?_⟩
    rw [UInt8.le_iff_toNat_le, Int.ofNat_le]
  | subtractFrom =>
    refine ⟨_, _, rfl, toNat_sub_cast _ _, toNat_toUInt8_decide ?_⟩
    rw [UInt8.le_iff_toNat_le, Int.ofNat_le]
  | shiftRight =>
    refine ⟨_, _, rfl, toNat_shiftRight_one _, toNat_toUInt8 ?_ ?_⟩
    · rw [FlagArithmetic.flag]
      omega
    · rw [beq_iff_eq, ← UInt8.toNat_inj, UInt8.toNat_mod, FlagArithmetic.flag]
      show _ % 2 = 1 ↔ _
      omega
  | shiftLeft =>
    refine ⟨_, _, rfl, toNat_shiftLeft_one _, toNat_toUInt8 ?_ ?_⟩
    · rw [FlagArithmetic.flag]
      omega
    · rw [decide_eq_true_iff, ge_iff_le, UInt8.le_iff_toNat_le, FlagArithmetic.flag]
      show 128 ≤ _ ↔ _
      omega

/-- Arithmetic comes to what it does on numbers, whichever of `vx`, `vy` and the flag are the same
register: with `a` and `b` the numbers in `vx` and `vy` before, the flag holds its number
afterwards, `vx` the result unless it is the flag itself, and every other register what it held.
Adding a constant to `vx`, or `vx` to the address register, wraps and leaves every other register
alone, the flag among them. Nothing else changes but the program counter. -/
theorem arithmetic_under_aliasing (m : Machine) (x y : UInt8) :
    let a : ℤ := (m.v.get x).toNat
    let b : ℤ := (m.v.get y).toNat
    (∀ c : FlagArithmetic, ∃ m', m.execute (c.instruction x y) = .ok m' ∧
      (Update.execute (c.instruction x y)).run m = .ok () m' ∧
      (∀ r, ((m'.v.get r).toNat : ℤ) =
        if r.toNat % 16 = 15 then c.flag a b
        else if r.toNat % 16 = x.toNat % 16 then c.result a b else (m.v.get r).toNat) ∧
      m' = { m with v := m'.v, pc := m.pc + 2 }) ∧
    (∀ n, ∃ m', m.execute (.increase x n) = .ok m' ∧
      (Update.execute (.increase x n)).run m = .ok () m' ∧
      (∀ r, ((m'.v.get r).toNat : ℤ) =
        if r.toNat % 16 = x.toNat % 16 then (a + n.toNat) % 256 else (m.v.get r).toNat) ∧
      m' = { m with v := m'.v, pc := m.pc + 2 }) ∧
    ∃ m', m.execute (.advance x) = .ok m' ∧
      (Update.execute (.advance x)).run m = .ok () m' ∧
      (m'.i.toNat : ℤ) = (m.i.toNat + a) % 65536 ∧
      m' = { m with i := m'.i, pc := m.pc + 2 } := by
  intro a b
  refine ⟨fun c => ?_, fun n => ?_, ?_⟩
  · obtain ⟨result, condition, hexecute, hresult, hflag⟩ := m.exists_execute_flagArithmetic x y c
    refine ⟨_, hexecute, ?_, fun r => ?_, rfl⟩
    · rw [Update.run_execute, hexecute]
      rfl
    · show ((((m.v.set x result).setFlag condition).get r).toNat : ℤ) = _
      rw [Registers.get_setFlag_set]
      split
      · exact hflag
      · split
        · exact hresult
        · rfl
  · refine ⟨_, rfl, Update.run_execute m _, fun r => ?_, rfl⟩
    show (((m.v.set x (m.v.get x + n)).get r).toNat : ℤ) = _
    rw [Registers.get_set]
    simp only [Registers.slotOf_eq_iff]
    split
    · exact toNat_add_cast _ _
    · rfl
  · refine ⟨_, rfl, Update.run_execute m _, ?_, rfl⟩
    show ((m.i + (m.v.get x).toUInt16).toNat : ℤ) = _
    rw [UInt16.toNat_add, UInt8.toNat_toUInt16]
    rfl

/-- With 200 in the flag, the flag is added to itself: the sum is lost and the carry stays. Half of
it would be 100, and only the bit shifted out stays. -/
example :
    let m : Machine := { initial (.ofSeed 0) with v := Registers.zeros.set Registers.flag 200 }
    (m.execute (.add 15 15)).map (fun m' => m'.v.get 15) = .ok 1 ∧
      (m.execute (.shiftRight 31)).map (fun m' => m'.v.get 15) = .ok 0 := by
  decide

end Machine

end Chip8
