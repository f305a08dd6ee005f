import Chip8.Machine.Execute
import Chip8.Proofs.Instruction.Decoding
import Mathlib.Data.Nat.Notation

/-!
# Decoding and encoding

What an opcode decodes to is determined by its being encoded as that opcode: exactly the instruction
whose operands fit into its form, that is not shadowed by another, and that is written as the opcode
(`decode?_eq_some_iff`). Only the third digit of a shift is lost.

Both directions go through the fields of an opcode. What is put into a field is found there
(`Opcode.family_addressed` and those after it), and an opcode is put together again from its fields
(`Opcode.addressed_fields`, `Opcode.immediate_fields`, `Opcode.binary_fields`).
-/

namespace Chip8

namespace Opcode

/-! ### The fields of what was put together -/

theorem div_of_digits {k x : UInt8} (hk : k.toNat ≤ 0xF) (hx : x.toNat ≤ 0xF) :
    (k * 16 + x) / 16 = k := by
  apply UInt8.toNat_inj.1
  simp only [UInt8.toNat_div, UInt8.toNat_add, UInt8.toNat_mul, UInt8.reduceToNat]
  omega

theorem mod_of_digits {k x : UInt8} (hx : x.toNat ≤ 0xF) : (k * 16 + x) % 16 = x := by
  apply UInt8.toNat_inj.1
  simp only [UInt8.toNat_mod, UInt8.toNat_add, UInt8.toNat_mul, UInt8.reduceToNat]
  omega

theorem family_addressed {k : UInt8} {a : UInt16} (hk : k.toNat ≤ 0xF) (ha : a.toNat ≤ 0xFFF) :
    (addressed k a).family = k := by
  apply UInt8.toNat_inj.1
  simp only [addressed, ofWord, family, UInt8.toNat_div, UInt16.toNat_toUInt8, UInt16.toNat_div,
    UInt16.toNat_add, UInt16.toNat_mul, UInt8.toNat_toUInt16, UInt16.reduceToNat, UInt8.reduceToNat]
  omega

theorem nnn_addressed {a : UInt16} (ha : a.toNat ≤ 0xFFF) (k : UInt8) :
    (addressed k a).nnn = a := by
  apply UInt16.toNat_inj.1
  simp only [addressed, ofWord, nnn, x, UInt8.toNat_mod, UInt16.toNat_toUInt8, UInt16.toNat_div,
    UInt16.toNat_add, UInt16.toNat_mul, UInt8.toNat_toUInt16, UInt16.reduceToNat, UInt8.reduceToNat]
  omega

theorem family_immediate {k x : UInt8} (hk : k.toNat ≤ 0xF) (hx : x.toNat ≤ 0xF) (n : UInt8) :
    (immediate k x n).family = k :=
  div_of_digits hk hx

theorem x_immediate {x : UInt8} (hx : x.toNat ≤ 0xF) (k n : UInt8) : (immediate k x n).x = x :=
  mod_of_digits hx

theorem nn_immediate (k x n : UInt8) : (immediate k x n).nn = n := rfl

theorem family_binary {k x : UInt8} (hk : k.toNat ≤ 0xF) (hx : x.toNat ≤ 0xF) (y n : UInt8) :
    (binary k x y n).family = k :=
  div_of_digits hk hx

theorem x_binary {x : UInt8} (hx : x.toNat ≤ 0xF) (k y n : UInt8) : (binary k x y n).x = x :=
  mod_of_digits hx

theorem y_binary {y n : UInt8} (hy : y.toNat ≤ 0xF) (hn : n.toNat ≤ 0xF) (k x : UInt8) :
    (binary k x y n).y = y :=
  div_of_digits hy hn

theorem n_binary {n : UInt8} (hn : n.toNat ≤ 0xF) (k x y : UInt8) : (binary k x y n).n = n :=
  mod_of_digits hn

/-! ### Fields put together -/

variable {op : Opcode}

theorem digits_of_byte (b : UInt8) : b / 16 * 16 + b % 16 = b := by
  apply UInt8.toNat_inj.1
  have hb := b.toNat_lt
  simp only [UInt8.toNat_add, UInt8.toNat_mul, UInt8.toNat_div, UInt8.toNat_mod, UInt8.reduceToNat]
  omega

theorem immediate_fields (op : Opcode) : immediate op.family op.x op.nn = op :=
  congrArg (Opcode.mk · op.low) (digits_of_byte op.high)

theorem binary_fields (op : Opcode) : binary op.family op.x op.y op.n = op :=
  (congrArg (Opcode.mk _) (digits_of_byte op.low)).trans op.immediate_fields

theorem addressed_fields (op : Opcode) : addressed op.family op.nnn = op := by
  have hword : op.family.toUInt16 * 4096 + op.nnn = op.toWord := by
    apply UInt16.toNat_inj.1
    have hh := op.high.toNat_lt
    have hl := op.low.toNat_lt
    simp only [family, nnn, x, toWord, UInt8.toNat_div, UInt8.toNat_mod, UInt16.toNat_add,
      UInt16.toNat_mul, UInt8.toNat_toUInt16, UInt16.reduceToNat, UInt8.reduceToNat]
    omega
  rw [addressed, hword, ofWord_toWord]

/-! ### Fields put together where some digits are known -/

theorem withoutIgnored_of_not (h : ¬op.IgnoresY) : op.withoutIgnored = op :=
  if_neg h

/-- Only the family of the shifts ignores a digit. -/
theorem withoutIgnored_of_family {k : ℕ} (hk : op.family.toNat = k) (h8 : k ≠ 0x8) :
    op.withoutIgnored = op :=
  withoutIgnored_of_not fun h => h8 (hk.symm.trans h.1)

theorem addressed_eq {k : ℕ} (hk : op.family.toNat = k) :
    addressed (UInt8.ofNat k) op.nnn = op := by
  rw [← hk, UInt8.ofNat_toNat, addressed_fields]

theorem immediate_eq {k : ℕ} (hk : op.family.toNat = k) :
    immediate (UInt8.ofNat k) op.x op.nn = op := by
  rw [← hk, UInt8.ofNat_toNat, immediate_fields]

theorem immediate_eq_of_nn {k n : ℕ} (hk : op.family.toNat = k) (hn : op.nn.toNat = n) :
    immediate (UInt8.ofNat k) op.x (UInt8.ofNat n) = op := by
  rw [← hn, UInt8.ofNat_toNat, immediate_eq hk]

theorem binary_eq {k : ℕ} (hk : op.family.toNat = k) :
    binary (UInt8.ofNat k) op.x op.y op.n = op := by
  rw [← hk, UInt8.ofNat_toNat, binary_fields]

theorem binary_eq_of_n {k n : ℕ} (hk : op.family.toNat = k) (hn : op.n.toNat = n) :
    binary (UInt8.ofNat k) op.x op.y (UInt8.ofNat n) = op := by
  rw [← hn, UInt8.ofNat_toNat, binary_eq hk]

/-- A shift is put together again with a zero for the digit that it ignores. -/
theorem binary_eq_withoutIgnored {n : ℕ} (hk : op.family.toNat = 0x8) (hn : op.n.toNat = n)
    (h : n = 0x6 ∨ n = 0xE) : binary 0x8 op.x 0x0 (UInt8.ofNat n) = op.withoutIgnored := by
  subst hn
  have hfamily : op.family = 0x8 := UInt8.toNat_inj.1 hk
  have hhigh : 0x8 * 16 + op.x = op.high := by
    rw [← hfamily]
    exact digits_of_byte op.high
  have hlow : 0x0 * 16 + op.n = op.n := by rw [UInt8.zero_mul, UInt8.zero_add]
  rw [withoutIgnored, if_pos ⟨hk, h⟩, UInt8.ofNat_toNat, binary, hhigh, hlow]

theorem nnn_le (op : Opcode) : op.nnn.toNat ≤ 0xFFF := by
  have hx := op.x_lt
  have hy := op.y_lt
  have hn := op.n_lt
  rw [op.toNat_nnn]
  omega

theorem x_le (op : Opcode) : op.x.toNat ≤ 0xF := Nat.le_of_lt_succ op.x_lt

theorem y_le (op : Opcode) : op.y.toNat ≤ 0xF := Nat.le_of_lt_succ op.y_lt

theorem n_le (op : Opcode) : op.n.toNat ≤ 0xF := Nat.le_of_lt_succ op.n_lt

end Opcode

open Opcode

/-- An opcode stands for the instruction that is written as this opcode but for digits that are
ignored, and that no other takes precedence over. -/
structure Opcode.StandsFor (op : Opcode) (i : Instruction) : Prop where
  operandsFit : i.OperandsFit
  not_shadowed : ¬i.Shadowed
  encode_eq : i.encode = op.withoutIgnored

namespace Instruction

variable {op : Opcode} {i : Instruction}

/-! ### Decoding what was encoded -/

theorem decode?_encode (h : i.OperandsFit) (hs : ¬i.Shadowed) : decode? i.encode = some i := by
  cases i with
  | clearScreen => rfl
  | ret => rfl
  | sys a =>
    simp only [OperandsFit] at h
    simp (disch := first | assumption | decide) only [encode, decode?, decodeSystem,
      family_addressed, nnn_addressed, UInt8.reduceToNat]
    split
    · next hclear => exact absurd (.inl (UInt16.toNat_inj.1 hclear)) hs
    · next hret => exact absurd (.inr (UInt16.toNat_inj.1 hret)) hs
    · rfl
  | jump a | call a | point a | jumpOffset a =>
    simp only [OperandsFit] at h
    simp (disch := first | assumption | decide) only [encode, decode?, family_addressed,
      nnn_addressed, UInt8.reduceToNat]
  | skipIfEqual x n | skipIfNotEqual x n | set x n | increase x n | random x n =>
    simp only [OperandsFit] at h
    simp (disch := first | assumption | decide) only [encode, decode?, family_immediate,
      x_immediate, nn_immediate, UInt8.reduceToNat]
  | skipIfPressed x | skipIfReleased x =>
    simp only [OperandsFit] at h
    simp (disch := first | assumption | decide) only [encode, decode?, decodeKey?,
      family_immediate, x_immediate, nn_immediate, UInt8.reduceToNat]
  | readDelay x | waitForKey x | setDelay x | setSound x | advance x | pointToGlyph x
  | storeDecimal x | dump x | restore x =>
    simp only [OperandsFit] at h
    simp (disch := first | assumption | decide) only [encode, decode?, decodeTransfer?,
      family_immediate, x_immediate, nn_immediate, UInt8.reduceToNat]
  | shiftRight x | shiftLeft x =>
    simp only [OperandsFit] at h
    simp (disch := first | assumption | decide) only [encode, decode?, decodeArithmetic?,
      family_binary, x_binary, n_binary, UInt8.reduceToNat]
  | copy x y | bitOr x y | bitAnd x y | bitXor x y | add x y | subtract x y | subtractFrom x y =>
    obtain ⟨hx, hy⟩ := h
    simp (disch := first | assumption | decide) only [encode, decode?, decodeArithmetic?,
      family_binary, x_binary, y_binary, n_binary, UInt8.reduceToNat]
  | skipIfSame x y | skipIfDifferent x y =>
    obtain ⟨hx, hy⟩ := h
    simp (disch := first | assumption | decide) only [encode, decode?, family_binary, x_binary,
      y_binary, n_binary, UInt8.reduceToNat, if_true]
  | draw x y n =>
    obtain ⟨hx, hy, hn⟩ := h
    simp (disch := first | assumption | decide) only [encode, decode?, family_binary, x_binary,
      y_binary, n_binary, UInt8.reduceToNat]

/-! ### Encoding what was decoded -/

theorem standsFor_decodeSystem (hk : op.family.toNat = 0x0) : op.StandsFor (decodeSystem op) := by
  have hop : op.withoutIgnored = op := withoutIgnored_of_family hk (by decide)
  unfold decodeSystem
  split
  · next h =>
    have hnnn : op.nnn = 0x0E0 := UInt16.toNat_inj.1 h
    refine ⟨trivial, id, ?_⟩
    rw [hop, ← addressed_eq hk, hnnn]
    rfl
  · next h =>
    have hnnn : op.nnn = 0x0EE := UInt16.toNat_inj.1 h
    refine ⟨trivial, id, ?_⟩
    rw [hop, ← addressed_eq hk, hnnn]
    rfl
  · next hclear hret =>
    refine ⟨op.nnn_le, ?_, (addressed_eq hk).trans hop.symm⟩
    rintro (h | h)
    · exact hclear (congrArg UInt16.toNat h)
    · exact hret (congrArg UInt16.toNat h)

theorem standsFor_of_decodeArithmetic? (hk : op.family.toNat = 0x8)
    (h : decodeArithmetic? op = some i) : op.StandsFor i := by
  unfold decodeArithmetic? at h
  split at h
  case h_7 hn | h_9 hn =>
    cases h
    exact ⟨op.x_le, id, binary_eq_withoutIgnored hk hn (by decide)⟩
  case h_10 => cases h
  all_goals cases h
  all_goals
    have hop : op.withoutIgnored = op := withoutIgnored_of_not fun h => by
      have hn := h.2
      omega
    exact ⟨⟨op.x_le, op.y_le⟩, id, (binary_eq_of_n hk ‹_›).trans hop.symm⟩

theorem standsFor_of_decodeKey? (hk : op.family.toNat = 0xE) (h : decodeKey? op = some i) :
    op.StandsFor i := by
  have hop : op.withoutIgnored = op := withoutIgnored_of_family hk (by decide)
  unfold decodeKey? at h
  split at h
  all_goals cases h
  all_goals exact ⟨op.x_le, id, (immediate_eq_of_nn hk ‹_›).trans hop.symm⟩

theorem standsFor_of_decodeTransfer? (hk : op.family.toNat = 0xF)
    (h : decodeTransfer? op = some i) : op.StandsFor i := by
  have hop : op.withoutIgnored = op := withoutIgnored_of_family hk (by decide)
  unfold decodeTransfer? at h
  split at h
  all_goals cases h
  all_goals exact ⟨op.x_le, id, (immediate_eq_of_nn hk ‹_›).trans hop.symm⟩

/-- An opcode stands for the instruction that it decodes to. -/
theorem standsFor_of_decode? (h : decode? op = some i) : op.StandsFor i := by
  rw [decode?.eq_def] at h
  split at h
  case h_1 hk =>
    cases h
    exact standsFor_decodeSystem hk
  case h_9 hk => exact standsFor_of_decodeArithmetic? hk h
  case h_15 hk => exact standsFor_of_decodeKey? hk h
  case h_16 hk => exact standsFor_of_decodeTransfer? hk h
  case h_17 => cases h
  all_goals
    have hop : op.withoutIgnored = op := withoutIgnored_of_family ‹_› (by decide)
  -- the two families that fix the last digit
  case h_6 hk | h_10 hk =>
    split at h
    · next hn =>
      cases h
      exact ⟨⟨op.x_le, op.y_le⟩, id, (binary_eq_of_n hk (congrArg UInt8.toNat hn)).trans hop.symm⟩
    · cases h
  case h_2 hk | h_3 hk | h_11 hk | h_12 hk =>
    cases h
    exact ⟨op.nnn_le, id, (addressed_eq hk).trans hop.symm⟩
  case h_14 hk =>
    cases h
    exact ⟨⟨op.x_le, op.y_le, op.n_le⟩, id, (binary_eq hk).trans hop.symm⟩
  all_goals cases h
  all_goals exact ⟨op.x_le, id, (immediate_eq ‹_›).trans hop.symm⟩

/-- The ignored digit makes no difference to what a shift decodes to. -/
theorem decode?_withoutIgnored (op : Opcode) : decode? op.withoutIgnored = decode? op := by
  by_cases h : op.IgnoresY
  · obtain ⟨hk, hn⟩ := h
    have hlow : (op.n % 16).toNat = op.n.toNat := by
      have hlt := op.n_lt
      simp only [UInt8.toNat_mod, UInt8.reduceToNat]
      omega
    have hn' : (Opcode.mk op.high op.n).n.toNat = op.n.toNat := hlow
    have hk' : (Opcode.mk op.high op.n).family.toNat = 0x8 := hk
    rw [withoutIgnored, if_pos ⟨hk, hn⟩]
    rcases hn with hn | hn
    · simp only [decode?, hk, hk', decodeArithmetic?, hn', hn]
      rfl
    · simp only [decode?, hk, hk', decodeArithmetic?, hn', hn]
      rfl
  · rw [withoutIgnored_of_not h]

/-- Decoding an opcode is finding the instruction that it stands for. -/
theorem decode?_eq_some_iff : decode? op = some i ↔ op.StandsFor i := by
  constructor
  · exact standsFor_of_decode?
  · rintro ⟨hfit, hshadow, hencode⟩
    rw [← decode?_withoutIgnored, ← hencode, decode?_encode hfit hshadow]

/-! ### Words at an address -/

variable {word pc : UInt16}

theorem decodeAt_eq_ok_iff : decodeAt word pc = .ok i ↔ decode? (ofWord word) = some i := by
  rw [decodeAt]
  cases decode? (ofWord word) with
  | some j => simp
  | none => simp

theorem decodeAt_eq_error_iff :
    decodeAt word pc = .error (.unknownOpcode word pc) ↔ decode? (ofWord word) = none := by
  rw [decodeAt]
  cases decode? (ofWord word) with
  | some j => simp
  | none => simp

/-- A machine fetches the word at its program counter and decodes it. -/
theorem fetch_eq_decodeAt (m : Machine) : m.fetch = decodeAt m.opcode.toWord m.pc := by
  cases hdecode : decode? m.opcode with
  | some i => simp only [Machine.fetch, decodeAt, ofWord_toWord, hdecode]
  | none => simp only [Machine.fetch, decodeAt, ofWord_toWord, hdecode]

/-- Exactly the words that have one of the documented forms decode, and the others are reported with
their address, `00E0` and `00EE` taking precedence over `0NNN`. A word decodes to the instruction of
its form whose operands fit, that no other takes precedence over, and that is written as the same
word but for the digit that shifts ignore. Every such instruction is written in its form and read
back. This is how a machine fetches. -/
theorem decoding_accepts_exactly_the_forms (word pc : UInt16) :
    ((∃ i, decodeAt word pc = .ok i) ↔ (ofWord word).Legal) ∧
      (decodeAt word pc = .error (.unknownOpcode word pc) ↔ ¬(ofWord word).Legal) ∧
      ((ofWord word).Fits clearScreen.form → decodeAt word pc = .ok clearScreen) ∧
      ((ofWord word).Fits ret.form → decodeAt word pc = .ok ret) ∧
      (∀ i, decodeAt word pc = .ok i ↔
        i.OperandsFit ∧ ¬i.Shadowed ∧ i.encode = (ofWord word).withoutIgnored) ∧
      (∀ i, decodeAt word pc = .ok i → (ofWord word).Fits i.form) ∧
      (∀ i, i.OperandsFit → ¬i.Shadowed →
        i.encode.Fits i.form ∧ decodeAt i.encode.toWord pc = .ok i) ∧
      ∀ m : Machine, m.opcode = ofWord word → m.pc = pc → m.fetch = decodeAt word pc := by
  refine ⟨?_, ?_, fun h => ?_, fun h => ?_, fun i => ?_, fun i h => ?_, fun i hfit hshadow => ?_,
    fun m hop hpc => ?_⟩
  · simp only [decodeAt_eq_ok_iff]
    exact exists_decode?_eq_some_iff
  · rw [decodeAt_eq_error_iff]
    exact decode?_eq_none_iff
  · exact decodeAt_eq_ok_iff.2 (decode?_of_fits_clearScreen h)
  · exact decodeAt_eq_ok_iff.2 (decode?_of_fits_ret h)
  · rw [decodeAt_eq_ok_iff, decode?_eq_some_iff]
    constructor
    · rintro ⟨hfit, hshadow, hencode⟩
      exact ⟨hfit, hshadow, hencode⟩
    · rintro ⟨hfit, hshadow, hencode⟩
      exact ⟨hfit, hshadow, hencode⟩
  · exact fits_form_of_decode? (decodeAt_eq_ok_iff.1 h)
  · have hdecode := decode?_encode hfit hshadow
    refine ⟨fits_form_of_decode? hdecode, decodeAt_eq_ok_iff.2 ?_⟩
    rwa [ofWord_toWord]
  · rw [fetch_eq_decodeAt, hop, hpc, toWord_ofWord]

/-- The word `8AB6` halves `vA`, and is written back as `8A06`. The word `00E0` does not call
machine code, which `0123` does. -/
theorem decoding_accepts_exactly_the_forms_of_shift :
    decodeAt 0x8AB6 0x246 = .ok (shiftRight 0xA) ∧
      (shiftRight 0xA).encode = (ofWord 0x8AB6).withoutIgnored ∧
      decodeAt 0x00E0 0x246 = .ok clearScreen ∧
      decodeAt (sys 0x123).encode.toWord 0x246 = .ok (sys 0x123) := by
  have hshift : decodeAt 0x8AB6 0x246 = .ok (shiftRight 0xA) :=
    decodeAt_eq_ok_iff.2 (by decide)
  have hfits : (ofWord 0x00E0).Fits clearScreen.form := fits_form_of_decode? (by decide)
  obtain ⟨-, -, -, -, hread, -, hwritten, -⟩ := decoding_accepts_exactly_the_forms 0x8AB6 0x246
  obtain ⟨-, -, hclear, -⟩ := decoding_accepts_exactly_the_forms 0x00E0 0x246
  refine ⟨hshift, ((hread _).1 hshift).2.2, hclear hfits, (hwritten (sys 0x123) ?_ ?_).2⟩
  · show (0x123 : UInt16).toNat ≤ 0xFFF
    decide
  · show ¬((0x123 : UInt16) = 0x0E0 ∨ (0x123 : UInt16) = 0x0EE)
    decide

end Instruction

end Chip8
