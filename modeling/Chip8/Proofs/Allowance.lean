import Chip8.Allowance
import Mathlib.Algebra.Order.Floor.Semifield
import Mathlib.Data.Rat.Floor
import Mathlib.Tactic.FieldSimp
import Mathlib.Tactic.Positivity
import Mathlib.Tactic.Ring

/-!
# Allowances that are exact

Multiples of `2⁻²⁰` below `2³³` have at most 53 significant bits, so computing with them rounds
nothing: `Allowance.grid x` is `x` of these parts. Dividing a clock by a rate (`perFrame_eq_grid`),
adding (`add_grid`) and spending what is whole (`spend_iterate_grid`) are then what they are for
natural numbers, and `Allowance.value` translates them to rational arithmetic.

Where a sum is rounded after all, it keeps every factor that is a power of two
(`two_pow_dvd_roundRatio`) and does not fall below what has 53 bits (`le_roundRatio`). Spending it
instruction by instruction then rounds nothing, up to `2⁵³` instructions
(`roundRatio_spend_iterate_add`).
-/

namespace Chip8

/-! ### Rounding that changes nothing -/

theorem roundQuotient_mul (q : ℕ) {b : ℕ} (hb : 0 < b) : roundQuotient (q * b) b = q := by
  rw [roundQuotient, Nat.mul_mod_left, Nat.mul_div_cancel _ hb]
  exact if_pos (by simpa using hb)

/-- A quotient that is exact and has at most 53 significant bits is not rounded. -/
theorem roundRatio_mul {s b : ℕ} (e : ℕ) (hb : 0 < b) (hs : s < 2 ^ significantBits) :
    roundRatio (s * 2 ^ e * b) b = s * 2 ^ e := by
  -- the unit that 53 bits leave is no coarser than `2 ^ e`
  have hlog : (s * 2 ^ e).log2 + 1 - significantBits ≤ e := by
    rcases Nat.eq_zero_or_pos s with rfl | hpos
    · rw [Nat.zero_mul, Nat.log2_zero]
      exact Nat.le_trans (Nat.le_of_eq rfl) (Nat.zero_le e)
    · have hlt : s * 2 ^ e < 2 ^ (significantBits + e) := by
        rw [Nat.pow_add]
        exact Nat.mul_lt_mul_of_pos_right hs (Nat.two_pow_pos e)
      have hne : s * 2 ^ e ≠ 0 := Nat.ne_of_gt (Nat.mul_pos hpos (Nat.two_pow_pos e))
      have := (Nat.log2_lt hne).2 hlt
      omega
  rw [roundRatio, Nat.mul_div_cancel _ hb, Nat.one_shiftLeft]
  generalize (s * 2 ^ e).log2 + 1 - significantBits = u at hlog
  -- so the quotient is a whole number of such units, and nothing is lost
  have hsplit : s * 2 ^ e = s * 2 ^ (e - u) * 2 ^ u := by
    rw [Nat.mul_assoc, ← Nat.pow_add, Nat.sub_add_cancel hlog]
  show roundQuotient (s * 2 ^ e * b) (b * 2 ^ u) * 2 ^ u = s * 2 ^ e
  have harrange : s * 2 ^ e * b = s * 2 ^ (e - u) * (b * 2 ^ u) := by
    rw [hsplit]
    ring
  rw [harrange, roundQuotient_mul _ (Nat.mul_pos hb (Nat.two_pow_pos u)), ← hsplit]

/-! ### Rounding in general -/

theorem div_le_roundQuotient (a b : ℕ) : a / b ≤ roundQuotient a b := by
  rw [roundQuotient]
  split_ifs
  · exact Nat.le_refl _
  · exact Nat.le_succ _
  · exact Nat.le_add_right _ _

theorem roundQuotient_le_succ_div (a b : ℕ) : roundQuotient a b ≤ a / b + 1 := by
  rw [roundQuotient]
  split_ifs
  · exact Nat.le_succ _
  · exact Nat.le_refl _
  · exact Nat.add_le_add_left (Nat.le_of_lt_succ (Nat.mod_lt _ Nat.two_pos)) _

theorem roundRatio_one (n : ℕ) :
    roundRatio n 1 = roundQuotient n (2 ^ (n.log2 + 1 - significantBits))
      * 2 ^ (n.log2 + 1 - significantBits) := by
  rw [roundRatio, Nat.div_one, Nat.one_shiftLeft, Nat.one_mul]

/-- Rounding keeps the powers of two that divide a number. -/
theorem two_pow_dvd_roundRatio {n e : ℕ} (h : 2 ^ e ∣ n) : 2 ^ e ∣ roundRatio n 1 := by
  rw [roundRatio_one]
  generalize n.log2 + 1 - significantBits = u
  rcases Nat.le_total e u with hle | hle
  · exact Nat.dvd_mul_left_of_dvd (Nat.pow_dvd_pow 2 hle) _
  · -- the unit divides the number, which is not rounded then
    obtain ⟨q, rfl⟩ := (Nat.pow_dvd_pow 2 hle).trans h
    rwa [Nat.mul_comm (2 ^ u), roundQuotient_mul _ (Nat.two_pow_pos u), Nat.mul_comm]

/-- What has at most 53 significant bits stays a lower bound when a number is rounded. -/
theorem le_roundRatio {s n : ℕ} (e : ℕ) (hs : s < 2 ^ significantBits) (h : s * 2 ^ e ≤ n) :
    s * 2 ^ e ≤ roundRatio n 1 := by
  rw [roundRatio_one]
  generalize hu : n.log2 + 1 - significantBits = u
  have hfloor : n / 2 ^ u * 2 ^ u ≤ roundQuotient n (2 ^ u) * 2 ^ u :=
    Nat.mul_le_mul_right _ (div_le_roundQuotient n (2 ^ u))
  refine Nat.le_trans ?_ hfloor
  rcases Nat.lt_or_ge e u with hlt | hle
  · -- the units up to the top bit of the number are more than the bound already
    have hlog : 52 + u = n.log2 := by
      rw [significantBits] at hu
      omega
    have hne : n ≠ 0 := by
      rintro rfl
      rw [Nat.log2_zero] at hlog
      omega
    have htop : 2 ^ 52 * 2 ^ u ≤ n := by
      rw [← Nat.pow_add, hlog]
      exact Nat.log2_self_le hne
    calc
      s * 2 ^ e ≤ 2 ^ 53 * 2 ^ e := Nat.mul_le_mul_right _ hs.le
      _ = 2 ^ 52 * 2 ^ (e + 1) := by rw [Nat.pow_succ 2 e]; ring
      _ ≤ 2 ^ 52 * 2 ^ u := Nat.mul_le_mul_left _ (Nat.pow_le_pow_right Nat.two_pos hlt)
      _ ≤ n / 2 ^ u * 2 ^ u :=
        Nat.mul_le_mul_right _ ((Nat.le_div_iff_mul_le (Nat.two_pow_pos u)).2 htop)
  · -- the bound is a whole number of units
    have hsplit : s * 2 ^ e = s * 2 ^ (e - u) * 2 ^ u := by
      rw [Nat.mul_assoc, ← Nat.pow_add, Nat.sub_add_cancel hle]
    rw [hsplit] at h ⊢
    exact Nat.mul_le_mul_right _ ((Nat.le_div_iff_mul_le (Nat.two_pow_pos u)).2 h)

/-- A number of at most 53 significant bits. -/
def HasSignificantBits (n : ℕ) : Prop :=
  ∃ s e, s < 2 ^ significantBits ∧ n = s * 2 ^ e

theorem HasSignificantBits.roundRatio_eq {n : ℕ} (h : HasSignificantBits n) :
    roundRatio n 1 = n := by
  obtain ⟨s, e, hs, rfl⟩ := h
  rw [← Nat.mul_one (s * 2 ^ e), roundRatio_mul e Nat.one_pos hs, Nat.mul_one]

/-- Rounding leaves 53 significant bits, also if it carries into one more. -/
theorem hasSignificantBits_roundRatio (n : ℕ) : HasSignificantBits (roundRatio n 1) := by
  rw [roundRatio_one]
  generalize hu : n.log2 + 1 - significantBits = u
  have hq : n / 2 ^ u < 2 ^ significantBits := by
    rw [Nat.div_lt_iff_lt_mul (Nat.two_pow_pos u), ← Nat.pow_add]
    exact Nat.lt_of_lt_of_le Nat.lt_log2_self (Nat.pow_le_pow_right Nat.two_pos (by omega))
  have hle : roundQuotient n (2 ^ u) ≤ 2 ^ significantBits :=
    Nat.le_trans (roundQuotient_le_succ_div n (2 ^ u)) hq
  rcases Nat.lt_or_eq_of_le hle with hlt | heq
  · exact ⟨_, u, hlt, rfl⟩
  · refine ⟨1, significantBits + u, by decide, ?_⟩
    rw [heq, Nat.one_mul, Nat.pow_add]

/-- A whole number of units of `2 ^ e` has as many significant bits as there are units. -/
theorem hasSignificantBits_of_dvd {n e : ℕ} (hdvd : 2 ^ e ∣ n)
    (hlt : n < 2 ^ (significantBits + e)) : HasSignificantBits n := by
  obtain ⟨s, rfl⟩ := hdvd
  refine ⟨s, e, ?_, Nat.mul_comm _ _⟩
  rw [Nat.pow_add, Nat.mul_comm] at hlt
  exact Nat.lt_of_mul_lt_mul_right hlt

namespace Allowance

/-! ### Parts of an instruction -/

/-- The allowance of `x` parts, `2²⁰` of which make an instruction. -/
def grid (x : ℕ) : Allowance :=
  ⟨x * 2 ^ 64⟩

theorem units_one : one.units = 2 ^ 20 * 2 ^ 64 := by
  rw [one, allowancePlaces, Nat.one_shiftLeft, ← Nat.pow_add]

theorem whole_of_le {a : Allowance} (h : one.units ≤ a.units) : a.whole = a.spend.whole + 1 := by
  have hone : 0 < one.units := by
    rw [units_one]
    positivity
  rw [whole, Nat.div_eq_sub_div hone h, whole, spend]

theorem whole_of_lt {a : Allowance} (h : a.units < one.units) : a.whole = 0 :=
  Nat.div_eq_of_lt h

theorem whole_pos_iff {a : Allowance} : 0 < a.whole ↔ one.units ≤ a.units := by
  constructor
  · intro h
    by_contra hlt
    rw [whole_of_lt (Nat.lt_of_not_le hlt)] at h
    exact Nat.lt_irrefl 0 h
  · intro h
    rw [whole_of_le h]
    exact Nat.succ_pos _

theorem zero_eq_grid : zero = grid 0 := by
  rw [zero, grid, Nat.zero_mul]

theorem parts_lt {clock rate : UInt32} {k : ℕ}
    (h : clock.toNat * 2 ^ 20 = k * max rate.toNat 1) : k < 2 ^ 52 := by
  have hrate : 0 < max rate.toNat 1 := Nat.lt_of_lt_of_le Nat.one_pos (Nat.le_max_right ..)
  have hle : k ≤ clock.toNat * 2 ^ 20 := h ▸ Nat.le_mul_of_pos_right k hrate
  have hclock := clock.toNat_lt
  omega

/-- A rate that divides the clock up to parts of an instruction is divided exactly. -/
theorem perFrame_eq_grid {clock rate : UInt32} {k : ℕ}
    (h : clock.toNat * 2 ^ 20 = k * max rate.toNat 1) : perFrame clock rate = grid k := by
  have hrate : 0 < max rate.toNat 1 := Nat.lt_of_lt_of_le Nat.one_pos (Nat.le_max_right ..)
  have hk : k < 2 ^ significantBits :=
    Nat.lt_trans (parts_lt h) (Nat.pow_lt_pow_right Nat.one_lt_two (by decide))
  rw [perFrame, units_one, ← Nat.mul_assoc, h, Nat.mul_right_comm, roundRatio_mul 64 hrate hk, grid]

theorem add_grid {x y : ℕ} (h : x + y < 2 ^ significantBits) :
    (grid x).add (grid y) = grid (x + y) := by
  rw [add, grid, grid, ← Nat.add_mul, ← Nat.mul_one ((x + y) * 2 ^ 64),
    roundRatio_mul 64 Nat.one_pos h, grid]

theorem whole_grid (x : ℕ) : (grid x).whole = x / 2 ^ 20 := by
  rw [whole, units_one, grid, Nat.mul_div_mul_right _ _ (Nat.two_pow_pos 64)]

theorem spend_grid (x : ℕ) : (grid x).spend = grid (x - 2 ^ 20) := by
  rw [spend, units_one, grid, ← Nat.sub_mul, grid]

/-- Spending everything that is whole leaves the parts that are not. -/
theorem spend_iterate_grid (x : ℕ) : spend^[(grid x).whole] (grid x) = grid (x % 2 ^ 20) := by
  -- truncated subtraction of natural numbers is what both sides do once nothing whole is left
  have hiterate : ∀ n, spend^[n] (grid x) = grid (x - n * 2 ^ 20) := by
    intro n
    induction n with
    | zero => rw [Function.iterate_zero, id_eq, Nat.zero_mul, Nat.sub_zero]
    | succ n ih =>
      rw [Function.iterate_succ_apply', ih, spend_grid, Nat.sub_sub, ← Nat.succ_mul]
  rw [whole_grid, hiterate, Nat.mod_eq_sub_div_mul]

/-! ### Whole instructions -/

theorem whole_spend (a : Allowance) : a.spend.whole = a.whole - 1 := by
  rcases Nat.lt_or_ge a.units one.units with hlt | hle
  · rw [whole_of_lt hlt, spend, Nat.sub_eq_zero_of_le hlt.le, whole, Nat.zero_div]
  · rw [whole_of_le hle, Nat.add_sub_cancel]

theorem whole_spend_iterate (a : Allowance) (n : ℕ) : (spend^[n] a).whole = a.whole - n := by
  induction n with
  | zero => rfl
  | succ n ih => rw [Function.iterate_succ_apply', whole_spend, ih, Nat.sub_sub]

theorem dvd_units_spend {a : Allowance} (h : one.units ∣ a.units) : one.units ∣ a.spend.units :=
  Nat.dvd_sub h (Nat.dvd_refl _)

theorem dvd_units_spend_iterate {a : Allowance} (h : one.units ∣ a.units) (n : ℕ) :
    one.units ∣ (spend^[n] a).units := by
  induction n with
  | zero => exact h
  | succ n ih =>
    rw [Function.iterate_succ_apply']
    exact dvd_units_spend ih

theorem dvd_units_add {a b : Allowance} (ha : one.units ∣ a.units) (hb : one.units ∣ b.units) :
    one.units ∣ (a.add b).units := by
  rw [units_one, ← Nat.pow_add] at *
  exact two_pow_dvd_roundRatio (Nat.dvd_add ha hb)

/-- An allowance of whole instructions that has none is zero. -/
theorem eq_zero_of_whole {a : Allowance} (h : one.units ∣ a.units) (hwhole : a.whole = 0) :
    a = zero := by
  have hunits : a.units = 0 := by
    rw [← Nat.div_mul_cancel h, show a.units / one.units = 0 from hwhole, Nat.zero_mul]
  cases a
  exact congrArg Allowance.mk hunits

/-- A sum has at least as many whole instructions as both parts, as far as 53 bits count. -/
theorem le_whole_add {a b : Allowance} {n : ℕ} (hn : n < 2 ^ significantBits)
    (h : n ≤ a.whole + b.whole) : n ≤ (a.add b).whole := by
  have hone : 0 < one.units := by
    rw [units_one]
    positivity
  have hsum : n * one.units ≤ a.units + b.units := by
    refine Nat.le_trans (Nat.mul_le_mul_right _ h) ?_
    rw [Nat.add_mul]
    exact Nat.add_le_add (Nat.div_mul_le_self _ _) (Nat.div_mul_le_self _ _)
  show n ≤ (a.add b).units / one.units
  rw [Nat.le_div_iff_mul_le hone, add]
  rw [units_one, ← Nat.pow_add] at hsum ⊢
  exact le_roundRatio _ hn hsum

/-! ### Differences that are not rounded -/

/-- The last significant bit of less than `2⁵³` instructions divides what is left of them when one
is spent. -/
theorem hasSignificantBits_spend {a : Allowance} (h : HasSignificantBits a.units)
    (hlt : a.units < 2 ^ significantBits * one.units) : HasSignificantBits a.spend.units := by
  obtain ⟨s, e, hs, ha⟩ := h
  rw [units_one, ← Nat.pow_add] at hlt
  rw [spend, units_one, ← Nat.pow_add]
  rcases Nat.le_total e 84 with hle | hle
  · refine hasSignificantBits_of_dvd (Nat.dvd_sub ?_ (Nat.pow_dvd_pow 2 hle)) ?_
    · exact ⟨s, ha.trans (Nat.mul_comm _ _)⟩
    · refine Nat.lt_of_le_of_lt (Nat.sub_le _ _) ?_
      rw [ha, Nat.pow_add]
      exact Nat.mul_lt_mul_of_pos_right hs (Nat.two_pow_pos e)
  · -- a number of whole instructions, with no more than 53 bits
    refine hasSignificantBits_of_dvd (e := 84) (Nat.dvd_sub ?_ (Nat.dvd_refl _)) ?_
    · exact (Nat.pow_dvd_pow 2 hle).trans ⟨s, ha.trans (Nat.mul_comm _ _)⟩
    · rw [Nat.pow_add]
      exact Nat.lt_of_le_of_lt (Nat.sub_le _ _) hlt

/-- While less than `2⁵³` instructions are owed, spending them one after the other leaves what
rounding would leave. -/
theorem roundRatio_spend_iterate_add {a b : Allowance}
    (h : (a.add b).units < 2 ^ significantBits * one.units) (n : ℕ) :
    roundRatio (spend^[n] (a.add b)).units 1 = (spend^[n] (a.add b)).units := by
  suffices hbits : HasSignificantBits (spend^[n] (a.add b)).units ∧
      (spend^[n] (a.add b)).units < 2 ^ significantBits * one.units from hbits.1.roundRatio_eq
  induction n with
  | zero => exact ⟨hasSignificantBits_roundRatio _, h⟩
  | succ n ih =>
    rw [Function.iterate_succ_apply']
    exact ⟨hasSignificantBits_spend ih.1 ih.2, Nat.lt_of_le_of_lt (Nat.sub_le _ _) ih.2⟩

/-! ### Allowances as numbers -/

/-- The number of instructions as a rational number. -/
def value (a : Allowance) : ℚ :=
  a.units / 2 ^ 84

theorem value_lt_one_iff {a : Allowance} : a.value < 1 ↔ a.whole = 0 := by
  have hone : one.units = 2 ^ 84 := by
    rw [units_one, ← Nat.pow_add]
  have hpos : (0 : ℚ) < 2 ^ 84 := by positivity
  rw [value, div_lt_one hpos, whole, Nat.div_eq_zero_iff_lt (by rw [hone]; positivity), hone]
  exact_mod_cast Iff.rfl

theorem value_grid (x : ℕ) : (grid x).value = (x : ℚ) / (2 ^ 20 : ℕ) := by
  rw [value, grid]
  push_cast
  field_simp
  ring

end Allowance

end Chip8
