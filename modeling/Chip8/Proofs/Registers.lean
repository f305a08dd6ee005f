import Chip8.Registers
import Mathlib.Data.List.Induction

/-!
# Rows of registers

A row of registers from `v0` on is read by `Registers.upTo` and replaced by `Registers.setFrom`. At
most 16 bytes are set one register each (`get_setFrom_zero`), so the registers up to one that an
operand names are afterwards what was written to them (`upTo_setFrom_zero`), and those after it are
what they were.
-/

namespace Chip8.Registers

theorem slotOf_ofNat {k : ℕ} (h : k < 16) : (slotOf (UInt8.ofNat k)).val = k := by
  show (UInt8.ofNat k).toNat % 16 = k
  rw [UInt8.toNat_ofNat_of_lt' (Nat.lt_trans h (by decide)), Nat.mod_eq_of_lt h]

/-- Operands that are congruent modulo 16 name the same register. -/
theorem slotOf_eq_iff {x y : UInt8} : slotOf x = slotOf y ↔ y.toNat % 16 = x.toNat % 16 := by
  rw [Fin.ext_iff, eq_comm]
  rfl

theorem get_congr (r : Registers) {x y : UInt8} (h : x.toNat % 16 = y.toNat % 16) :
    r.get x = r.get y :=
  congrArg (fun slot => r.values[slot]) (slotOf_eq_iff.2 h.symm)

theorem get_set_of_ne (r : Registers) {x y : UInt8} (h : x.toNat % 16 ≠ y.toNat % 16) (b : UInt8) :
    (r.set x b).get y = r.get y := by
  rw [get_set, if_neg fun e => h (congrArg Fin.val e)]

/-! ### The flag -/

theorem get_setFlag (r : Registers) (condition : Bool) :
    (r.setFlag condition).get flag = condition.toUInt8 := by
  rw [setFlag, get_set, if_pos rfl]

theorem get_setFlag_eq_one_iff (r : Registers) {condition : Bool} :
    (r.setFlag condition).get flag = 1 ↔ condition = true := by
  rw [get_setFlag]
  cases condition with
  | false => decide
  | true => decide

theorem get_setFlag_eq_zero_iff (r : Registers) {condition : Bool} :
    (r.setFlag condition).get flag = 0 ↔ ¬condition = true := by
  rw [get_setFlag]
  cases condition with
  | false => decide
  | true => decide

/-- A register after a result and then the flag have been set. -/
theorem get_setFlag_set (r : Registers) (x b : UInt8) (condition : Bool) (y : UInt8) :
    ((r.set x b).setFlag condition).get y =
      if y.toNat % 16 = 15 then condition.toUInt8
      else if y.toNat % 16 = x.toNat % 16 then b else r.get y := by
  rw [setFlag, get_set, get_set]
  simp only [slotOf_eq_iff]
  rfl

/-! ### Reading -/

theorem length_upTo (r : Registers) (x : UInt8) : (r.upTo x).length = x.toNat % 16 + 1 := by
  have hslot : (slotOf x).val + 1 ≤ 16 := (slotOf x).isLt
  rw [upTo, List.length_take, Vector.length_toList, Nat.min_eq_left hslot]
  rfl

theorem getElem_upTo (r : Registers) {x : UInt8} {k : ℕ} (hk : k < (r.upTo x).length) :
    (r.upTo x)[k] = r.get (UInt8.ofNat k) := by
  have hk16 : k < 16 := by
    rw [length_upTo] at hk
    omega
  simp only [upTo, List.getElem_take, Vector.getElem_toList, get, Fin.getElem_fin,
    slotOf_ofNat hk16]

/-! ### Writing -/

/-- One byte more is set like the bytes before it and then that register. -/
theorem setFrom_append (r : Registers) (x : UInt8) (bytes : List UInt8) (b : UInt8) :
    r.setFrom x (bytes ++ [b]) = (r.setFrom x bytes).set (x + UInt8.ofNat bytes.length) b := by
  induction bytes generalizing r x with
  | nil => exact congrArg (r.set · b) (UInt8.add_zero x).symm
  | cons first rest ih =>
    rw [List.cons_append, setFrom, ih, setFrom, List.length_cons, UInt8.ofNat_add,
      UInt8.add_assoc, UInt8.add_comm 1]
    rfl

/-- A register after bytes have been set from `v0` on: the byte that falls on it, or what it was
before if there are not so many. -/
theorem get_setFrom_zero (r : Registers) {bytes : List UInt8} (h : bytes.length ≤ 16) (y : UInt8) :
    (r.setFrom 0 bytes).get y = bytes[y.toNat % 16]?.getD (r.get y) := by
  induction bytes using List.reverseRecOn with
  | nil => rfl
  | append_singleton rest b ih =>
    rw [List.length_append, List.length_singleton] at h
    -- the last byte goes to the register after those that have been set
    have hslot : slotOf (0 + UInt8.ofNat rest.length) = slotOf y ↔ rest.length = y.toNat % 16 := by
      rw [UInt8.zero_add, Fin.ext_iff, slotOf_ofNat h]
      rfl
    rw [setFrom_append, get_set, ih (Nat.le_of_succ_le h), List.getElem?_append]
    by_cases hy : rest.length = y.toNat % 16
    · rw [if_pos (hslot.2 hy), ← hy, if_neg (Nat.lt_irrefl _), Nat.sub_self]
      rfl
    · rw [if_neg (mt hslot.1 hy)]
      by_cases hlt : y.toNat % 16 < rest.length
      · rw [if_pos hlt]
      · have hlater : 1 ≤ y.toNat % 16 - rest.length := by omega
        rw [if_neg hlt, List.getElem?_eq_none (Nat.le_of_not_lt hlt), List.getElem?_eq_none hlater]

/-- The registers that bytes have been set to are read back as these bytes. -/
theorem upTo_setFrom_zero (r : Registers) {x : UInt8} {bytes : List UInt8}
    (h : bytes.length = x.toNat % 16 + 1) : (r.setFrom 0 bytes).upTo x = bytes := by
  refine List.ext_getElem (by rw [length_upTo, h]) fun k hk hk' => ?_
  have hk16 : k < 16 := by omega
  have hslot : (UInt8.ofNat k).toNat % 16 = k := slotOf_ofNat hk16
  rw [getElem_upTo, get_setFrom_zero r (by omega), hslot, List.getElem?_eq_getElem hk',
    Option.getD_some]

end Chip8.Registers
