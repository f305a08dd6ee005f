import Chip8.Instruction.Encoding
import Chip8.Instruction.Form

/-!
# Decoding accepts the instruction set

An opcode decodes to an instruction iff it has one of the documented forms
(`exists_decode?_eq_some_iff`), and what it decodes to has the form that it is decoded by
(`fits_form_of_decode?`). The proof goes through the digits as numbers: the low byte and the address
of an opcode are sums of them (`toNat_nn`, `toNat_nnn`), so a test on either is a test on digits.

For some instructions, `decode?_of_fits_call` and those around it say which opcodes stand for them,
and `le_of_decode?_draw` that no opcode draws too tall a sprite.
-/

namespace Chip8

/-! ### Fields as sums of digits -/

namespace Opcode

theorem y_lt (op : Opcode) : op.y.toNat < 16 := by
  have hl := op.low.toNat_lt
  simp only [y, UInt8.toNat_div, UInt8.reduceToNat]
  omega

theorem x_lt (op : Opcode) : op.x.toNat < 16 := by
  simp only [x, UInt8.toNat_mod, UInt8.reduceToNat]
  omega

theorem n_lt (op : Opcode) : op.n.toNat < 16 := by
  simp only [n, UInt8.toNat_mod, UInt8.reduceToNat]
  omega

/-- The low byte is made of the last two digits. -/
theorem toNat_nn (op : Opcode) : op.nn.toNat = 16 * op.y.toNat + op.n.toNat := by
  simp only [nn, y, n, UInt8.toNat_div, UInt8.toNat_mod, UInt8.reduceToNat]
  omega

/-- The address is made of the last three digits. -/
theorem toNat_nnn (op : Opcode) :
    op.nnn.toNat = 256 * op.x.toNat + 16 * op.y.toNat + op.n.toNat := by
  have hx := op.x_lt
  have hl := op.low.toNat_lt
  have hnn := op.toNat_nn
  simp only [nn] at hnn
  simp only [nnn, UInt16.toNat_add, UInt16.toNat_mul, UInt8.toNat_toUInt16, UInt16.reduceToNat]
  omega

end Opcode

namespace Instruction

variable {op : Opcode} {i : Instruction}

/-! ### What decodes has a form -/

theorem fits_form_decodeSystem (hk : op.family.toNat = 0x0) : op.Fits (decodeSystem op).form := by
  have hx := op.x_lt
  have hy := op.y_lt
  have hn := op.n_lt
  have hnnn := op.toNat_nnn
  unfold decodeSystem
  split
  · next h => constructor <;> simp [form, hk] <;> omega
  · next h => constructor <;> simp [form, hk] <;> omega
  · exact ⟨hk, nofun, nofun, nofun⟩

theorem fits_form_of_decodeArithmetic? (hk : op.family.toNat = 0x8)
    (h : decodeArithmetic? op = some i) : op.Fits i.form := by
  unfold decodeArithmetic? at h
  split at h
  all_goals cases h
  all_goals exact ⟨hk, nofun, nofun, by simpa [form]⟩

theorem fits_form_of_decodeKey? (hk : op.family.toNat = 0xE) (h : decodeKey? op = some i) :
    op.Fits i.form := by
  have hn := op.n_lt
  have hnn := op.toNat_nn
  unfold decodeKey? at h
  split at h
  all_goals cases h
  all_goals exact ⟨hk, nofun, by simp [form]; omega, by simp [form]; omega⟩

theorem fits_form_of_decodeTransfer? (hk : op.family.toNat = 0xF)
    (h : decodeTransfer? op = some i) : op.Fits i.form := by
  have hn := op.n_lt
  have hnn := op.toNat_nn
  unfold decodeTransfer? at h
  split at h
  all_goals cases h
  all_goals exact ⟨hk, nofun, by simp [form]; omega, by simp [form]; omega⟩

/-- An opcode has the form of the instruction that it decodes to. -/
theorem fits_form_of_decode? (h : decode? op = some i) : op.Fits i.form := by
  rw [decode?.eq_def] at h
  split at h
  case h_1 hk =>
    cases h
    exact fits_form_decodeSystem hk
  case h_9 hk => exact fits_form_of_decodeArithmetic? hk h
  case h_15 hk => exact fits_form_of_decodeKey? hk h
  case h_16 hk => exact fits_form_of_decodeTransfer? hk h
  -- the two families that fix the last digit
  case h_6 hk | h_10 hk =>
    split at h
    · next hn =>
      cases h
      exact ⟨hk, nofun, nofun, by simp [form, hn]⟩
    · cases h
  -- the families whose other digits are operands throughout
  all_goals cases h
  all_goals exact ⟨‹_›, nofun, nofun, nofun⟩

/-! ### What has a form decodes -/

/-- An opcode that has the form of an instruction decodes, though perhaps to another one. -/
theorem exists_decode?_of_fits_form (h : op.Fits i.form) : ∃ j, decode? op = some j := by
  have hnn := op.toNat_nn
  obtain ⟨hk, -, hy, hn⟩ := h
  rw [← Option.ne_none_iff_exists']
  cases i with
  | skipIfSame | skipIfDifferent =>
    have hn : op.n = 0 := UInt8.toNat_inj.1 (hn 0 rfl)
    simp_all [form, decode?]
  | _ => simp_all [form, decode?, decodeArithmetic?, decodeKey?, decodeTransfer?]

/-- Exactly the legal opcodes decode. -/
theorem exists_decode?_eq_some_iff : (∃ i, decode? op = some i) ↔ op.Legal := by
  constructor
  · rintro ⟨i, h⟩
    exact ⟨i, fits_form_of_decode? h⟩
  · rintro ⟨i, h⟩
    exact exists_decode?_of_fits_form h

/-- Exactly the opcodes that are not legal decode to nothing. -/
theorem decode?_eq_none_iff : decode? op = none ↔ ¬ op.Legal := by
  rw [← exists_decode?_eq_some_iff, ← Option.ne_none_iff_exists', ne_eq, Decidable.not_not]

/-! ### The opcodes of some instructions -/

/-- Every opcode of the form `2NNN` is a call. -/
theorem decode?_of_fits_call {a : UInt16} (h : op.Fits (call a).form) :
    decode? op = some (call op.nnn) := by
  have hk : op.family.toNat = 0x2 := h.family
  simp only [decode?, hk]

/-- The opcode `00E0` clears the screen and is no call of machine code. -/
theorem decode?_of_fits_clearScreen (h : op.Fits clearScreen.form) :
    decode? op = some clearScreen := by
  have hk : op.family.toNat = 0x0 := h.family
  have hnnn : op.nnn.toNat = 0x0E0 := by
    rw [op.toNat_nnn, h.x 0x0 rfl, h.y 0xE rfl, h.n 0x0 rfl]
  simp only [decode?, hk, decodeSystem, hnnn]

/-- The opcode `00EE` is a return and not a call of machine code. -/
theorem decode?_of_fits_ret (h : op.Fits ret.form) : decode? op = some ret := by
  have hk : op.family.toNat = 0x0 := h.family
  have hnnn : op.nnn.toNat = 0x0EE := by
    rw [op.toNat_nnn, h.x 0x0 rfl, h.y 0xE rfl, h.n 0xE rfl]
  simp only [decode?, hk, decodeSystem, hnnn]

/-- Every opcode of the form `FX0A` waits for a key. -/
theorem decode?_of_fits_waitForKey {x : UInt8} (h : op.Fits (waitForKey x).form) :
    decode? op = some (waitForKey op.x) := by
  have hk : op.family.toNat = 0xF := h.family
  have hnn : op.nn.toNat = 0x0A := by
    rw [op.toNat_nn, h.y 0x0 rfl, h.n 0xA rfl]
  simp only [decode?, hk, decodeTransfer?, hnn]

/-- An opcode cannot ask for a sprite of more than 15 rows. -/
theorem le_of_decode?_draw {x y n : UInt8} (h : decode? op = some (draw x y n)) : n.toNat ≤ 15 := by
  have hk : op.family.toNat = 0xD := (fits_form_of_decode? h).family
  simp only [decode?, hk, Option.some.injEq, draw.injEq] at h
  have hn := op.n_lt
  rw [← h.2.2]
  omega

end Instruction

end Chip8
