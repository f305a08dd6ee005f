import Chip8.Snapshot.Reader
import Mathlib.Algebra.Group.Nat.Defs

/-!
# Numerals read back

The digits of a number are read back as this number (`numberOf?_decimalDigits`,
`numberOf?_hexDigits`): a digit at the end counts once and what stands before it as often as the
base says (`numberOf?_append_singleton`), and zeros at the front change nothing
(`numberOf?_replicate_zero_append`). So the number of digits need not be known. It is the least
width, or more if the number needs more (`length_hexDigits_le_iff`).

A field is read back if a space follows or nothing does (`readField?_append`), since none of its
digits is a space.
-/

namespace Chip8.Text

variable {base n d : ℕ} {c : Char} {digits : List Char}

/-! ### Digits -/

theorem digitValue?_digitChar : ∀ d < 10, digitValue? (Nat.digitChar d) = some d := by
  decide

theorem digitValue?_toUpper_digitChar :
    ∀ d < 16, digitValue? (Nat.digitChar d).toUpper = some d := by
  decide

/-! ### Numbers -/

theorem numberOf?_of_ne_nil (base : ℕ) (h : digits ≠ []) :
    numberOf? base digits
      = digits.foldlM (fun n c => (digitValue? c).map fun d => base * n + d) 0 :=
  if_neg fun hempty => h (List.isEmpty_iff.1 hempty)

theorem numberOf?_singleton (hc : digitValue? c = some d) : numberOf? base [c] = some d := by
  rw [numberOf?_of_ne_nil base (List.cons_ne_nil c []), List.foldlM_cons, hc, Option.map_some,
    Nat.mul_zero, Nat.zero_add]
  rfl

theorem numberOf?_append_singleton (hn : numberOf? base digits = some n)
    (hc : digitValue? c = some d) : numberOf? base (digits ++ [c]) = some (base * n + d) := by
  have hdigits : digits ≠ [] := by
    rintro rfl
    cases hn
  rw [numberOf?_of_ne_nil base hdigits] at hn
  rw [numberOf?_of_ne_nil base (List.append_ne_nil_of_left_ne_nil hdigits [c]), List.foldlM_append,
    hn, Option.bind_eq_bind, Option.bind_some, List.foldlM_cons, hc]
  rfl

theorem numberOf?_zero_cons (hdigits : digits ≠ []) :
    numberOf? base ('0' :: digits) = numberOf? base digits := by
  have hzero : digitValue? '0' = some 0 := rfl
  rw [numberOf?_of_ne_nil base (List.cons_ne_nil _ _), numberOf?_of_ne_nil base hdigits,
    List.foldlM_cons, hzero]
  rfl

theorem numberOf?_replicate_zero_append (hdigits : digits ≠ []) (k : ℕ) :
    numberOf? base (List.replicate k '0' ++ digits) = numberOf? base digits := by
  induction k with
  | zero => rfl
  | succ k ih =>
    rw [List.replicate_succ, List.cons_append,
      numberOf?_zero_cons (List.append_ne_nil_of_right_ne_nil _ hdigits), ih]

/-- A number is read back from its digits, however they are written. -/
theorem numberOf?_map_toDigits (hbase : 1 < base) {f : Char → Char}
    (hf : ∀ d < base, digitValue? (f (Nat.digitChar d)) = some d) (n : ℕ) :
    numberOf? base ((Nat.toDigits base n).map f) = some n := by
  induction n using Nat.strongRecOn with
  | ind n ih =>
    rw [Nat.toDigits_eq_if hbase]
    split
    · next hlt => exact numberOf?_singleton (hf n hlt)
    · next hle =>
      have hless : n / base < n := Nat.div_lt_self (by omega) hbase
      have hlast := hf (n % base) (Nat.mod_lt n (Nat.zero_lt_of_lt hbase))
      rw [List.map_append, List.map_singleton, numberOf?_append_singleton (ih _ hless) hlast,
        Nat.div_add_mod]

theorem numberOf?_decimalDigits (n : ℕ) : numberOf? 10 (decimalDigits n) = some n := by
  have hdigits := numberOf?_map_toDigits (f := id) (by decide) digitValue?_digitChar n
  rwa [List.map_id] at hdigits

theorem numberOf?_hexDigits (width n : ℕ) : numberOf? 16 (hexDigits width n) = some n := by
  rw [hexDigits, List.leftpad, numberOf?_replicate_zero_append]
  · exact numberOf?_map_toDigits (by decide) digitValue?_toUpper_digitChar n
  · simp

/-- Only digits are read as a number. -/
theorem not_mem_of_digitValue?_eq_none (hn : numberOf? base digits = some n)
    (hc : digitValue? c = none) : c ∉ digits := by
  intro hmem
  rw [numberOf?_of_ne_nil base (List.ne_nil_of_mem hmem)] at hn
  -- the induction is on the digits, whatever has been read before them
  generalize 0 = start at hn
  induction digits generalizing start with
  | nil => exact List.not_mem_nil hmem
  | cons first rest ih =>
    rw [List.foldlM_cons] at hn
    obtain ⟨next, hfirst, hrest⟩ := Option.bind_eq_some_iff.1 hn
    rcases List.mem_cons.1 hmem with rfl | hmem
    · rw [hc] at hfirst
      cases hfirst
    · exact ih hmem next hrest

theorem toList_hex (width n : ℕ) : (hex width n).toList = hexDigits width n :=
  String.toList_ofList

/-! ### How many digits there are -/

theorem le_length_hexDigits (width n : ℕ) : width ≤ (hexDigits width n).length := by
  rw [hexDigits, List.length_leftpad]
  exact Nat.le_max_left _ _

theorem length_hexDigits_le_iff {width k : ℕ} (hk : 0 < k) :
    (hexDigits width n).length ≤ k ↔ width ≤ k ∧ n < 16 ^ k := by
  rw [hexDigits, List.length_leftpad, List.length_map, Nat.max_le,
    Nat.length_toDigits_le_iff (by decide) hk]

/-- An address has three digits, or four if it needs them. -/
theorem length_hexDigits_address (a : UInt16) :
    (hexDigits 3 a.toNat).length = if a < 0x1000 then 3 else 4 := by
  have hlow := le_length_hexDigits 3 a.toNat
  have hthree : (hexDigits 3 a.toNat).length ≤ 3 ↔ 3 ≤ 3 ∧ a.toNat < 16 ^ 3 :=
    length_hexDigits_le_iff (by decide)
  have hfour : (hexDigits 3 a.toNat).length ≤ 4 ↔ 3 ≤ 4 ∧ a.toNat < 16 ^ 4 :=
    length_hexDigits_le_iff (by decide)
  have ha := a.toNat_lt
  simp only [UInt16.lt_iff_toNat_lt, UInt16.reduceToNat]
  split
  · omega
  · omega

/-- A byte has one to three digits in decimal. -/
theorem length_decimalDigits_byte (b : UInt8) :
    (decimalDigits b.toNat).length = if b < 10 then 1 else if b < 100 then 2 else 3 := by
  have hpos : 0 < (decimalDigits b.toNat).length := Nat.length_toDigits_pos
  have hone : (decimalDigits b.toNat).length ≤ 1 ↔ b.toNat < 10 ^ 1 :=
    Nat.length_toDigits_le_iff (by decide) (by decide)
  have htwo : (decimalDigits b.toNat).length ≤ 2 ↔ b.toNat < 10 ^ 2 :=
    Nat.length_toDigits_le_iff (by decide) (by decide)
  have hthree : (decimalDigits b.toNat).length ≤ 3 ↔ b.toNat < 10 ^ 3 :=
    Nat.length_toDigits_le_iff (by decide) (by decide)
  have hb := b.toNat_lt
  simp only [UInt8.lt_iff_toNat_lt, UInt8.reduceToNat]
  split
  · omega
  · split
    · omega
    · omega

/-! ### Fields -/

theorem afterLabel?_append (label rest : List Char) :
    afterLabel? label (label ++ rest) = some rest := by
  rw [afterLabel?, if_pos (List.isPrefixOf_iff_prefix.2 (List.prefix_append label rest)),
    List.drop_left]

/-- The number of a field ends where a space follows. -/
theorem readField?_append {label : String} {rest : List Char} (hn : numberOf? base digits = some n)
    (hrest : ∀ c ∈ rest.head?, c = ' ') :
    readField? label base (label.toList ++ (digits ++ rest)) = some (n, rest) := by
  have hdigits : ∀ c ∈ digits, (c != ' ') = true := by
    intro c hc
    refine bne_iff_ne.2 ?_
    rintro rfl
    exact not_mem_of_digitValue?_eq_none hn rfl hc
  have hnone : rest.takeWhile (· != ' ') = [] ∧ rest.dropWhile (· != ' ') = rest := by
    cases rest with
    | nil => exact ⟨rfl, rfl⟩
    | cons c rest =>
      obtain rfl := hrest c rfl
      exact ⟨rfl, rfl⟩
  rw [readField?, afterLabel?_append, Option.bind_eq_bind, Option.bind_some,
    List.takeWhile_append_of_pos hdigits, List.dropWhile_append_of_pos hdigits, hnone.1, hnone.2,
    List.append_nil, hn]
  rfl

end Chip8.Text
