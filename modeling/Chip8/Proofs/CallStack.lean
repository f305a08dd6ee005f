import Chip8.CallStack

/-!
# The call stack as a bounded list

Through `CallStack.openCalls` the slots and the depth are a list of at most 16 addresses: a call is
appended to it (`openCalls_of_push?`) if there is room (`push?_eq_none_iff`), and a return takes the
last one off (`openCalls_of_pop?`) if there is one (`pop?_eq_none_iff`). The depth need not be at
most 16, since it can be set from outside; a depth above 16 refuses both.
-/

namespace Chip8.CallStack

variable {s t : CallStack} {a : UInt16}

/-! ### Calls -/

/-- A call is refused iff no slot is free. -/
theorem push?_eq_none_iff : s.push? a = none ↔ 16 ≤ s.depth.toNat := by
  rw [push?, Option.map_eq_none_iff, setSlot?]
  split <;> simp <;> omega

/-- What an accepted call makes of the stack. -/
theorem push?_eq_some_iff :
    s.push? a = some t
      ↔ ∃ h : s.depth.toNat < 16, t = ⟨s.slots.set s.depth.toNat a h, s.depth + 1⟩ := by
  rw [push?, Option.map_eq_some_iff, setSlot?]
  split
  · next h => simp [h, eq_comm]
  · next h => simp [h]

theorem depth_of_push? (h : s.push? a = some t) : t.depth.toNat = s.depth.toNat + 1 := by
  obtain ⟨hd, rfl⟩ := push?_eq_some_iff.1 h
  rw [UInt8.toNat_add, UInt8.toNat_one]
  omega

theorem openCalls_of_push? (h : s.push? a = some t) : t.openCalls = s.openCalls ++ [a] := by
  have hdepth := depth_of_push? h
  obtain ⟨hd, rfl⟩ := push?_eq_some_iff.1 h
  rw [openCalls, hdepth, Vector.toList_set, List.take_add_one, List.take_set_of_le (Nat.le_refl _),
    List.getElem?_set_self (by simpa using hd)]
  rfl

/-! ### Returns -/

theorem toNat_sub_one {d : UInt8} (h : d ≠ 0) : (d - 1).toNat = d.toNat - 1 := by
  have h0 : d.toNat ≠ 0 := fun e => h (UInt8.toNat_inj.1 e)
  refine UInt8.toNat_sub_of_le _ _ (UInt8.le_iff_toNat_le.2 ?_)
  rw [UInt8.toNat_one]
  omega

/-- A return is refused iff no call is open, or the depth is out of bounds. -/
theorem pop?_eq_none_iff : s.pop? = none ↔ s.depth.toNat = 0 ∨ 16 < s.depth.toNat := by
  rw [pop?]
  split
  · next h => simp [h]
  · next h =>
    have h0 : s.depth.toNat ≠ 0 := fun e => h (UInt8.toNat_inj.1 e)
    rw [Option.map_eq_none_iff, slot?, toNat_sub_one h, Vector.getElem?_eq_none_iff]
    omega

/-- What an accepted return makes of the stack. -/
theorem pop?_eq_some_iff :
    s.pop? = some (a, t)
      ↔ s.depth ≠ 0 ∧ s.slots[s.depth.toNat - 1]? = some a ∧ t = ⟨s.slots, s.depth - 1⟩ := by
  rw [pop?]
  split
  · next h => simp [h]
  · next h =>
    rw [Option.map_eq_some_iff, slot?, toNat_sub_one h]
    constructor
    · rintro ⟨b, hb, he⟩
      obtain ⟨rfl, rfl⟩ := Prod.mk.inj he
      exact ⟨h, hb, rfl⟩
    · rintro ⟨-, hb, rfl⟩
      exact ⟨a, hb, rfl⟩

theorem depth_of_pop? (h : s.pop? = some (a, t)) : s.depth.toNat = t.depth.toNat + 1 := by
  obtain ⟨hd, -, rfl⟩ := pop?_eq_some_iff.1 h
  have h0 : s.depth.toNat ≠ 0 := fun e => hd (UInt8.toNat_inj.1 e)
  rw [toNat_sub_one hd]
  omega

theorem openCalls_of_pop? (h : s.pop? = some (a, t)) : s.openCalls = t.openCalls ++ [a] := by
  have hdepth := depth_of_pop? h
  obtain ⟨hd, hslot, rfl⟩ := pop?_eq_some_iff.1 h
  rw [toNat_sub_one hd] at hdepth
  rw [← Vector.getElem?_toList] at hslot
  rw [openCalls, openCalls, hdepth, List.take_add_one, toNat_sub_one hd, hslot]
  rfl

/-! ### How many calls are open -/

theorem length_openCalls (h : s.depth.toNat ≤ 16) : s.openCalls.length = s.depth.toNat := by
  rw [openCalls, List.length_take, Vector.length_toList, Nat.min_eq_left h]

end Chip8.CallStack
