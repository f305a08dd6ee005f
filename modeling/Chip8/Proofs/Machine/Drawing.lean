import Chip8.Machine.Execute
import Chip8.Proofs.Display
import Chip8.Proofs.Memory
import Chip8.Proofs.Registers

/-!
# Drawing a sprite from memory

The instruction that draws takes its sprite from the bytes at the address register, going on at the
start of memory after its end, and its corner from two registers. What it flips are the pixels that
a set bit of these bytes falls on (`SpriteCovers`): a sprite of at most 15 rows hits no pixel twice.
For the same reason the flag, which tells whether a pixel was on when it was hit, tells whether a
pixel went out (`drawSprite_collides_iff`).

The flag is set last. So the corner is where the registers say before the instruction, even if one
of them is the flag itself.
-/

namespace Chip8.Machine

/-- Whether a pixel is covered by a set bit of the sprite of `n` rows at the address register, the
most significant bit of each row leftmost, with its corner at column `vx` and row `vy`. Memory and
screen wrap around. -/
def SpriteCovers (m : Machine) (x y n : UInt8) (p : Pixel) : Prop :=
  ∃ k < n.toNat, ∃ b < 8,
    m.memory.cells[(m.i.toNat + k) % 4096].toNat.testBit (7 - b) = true ∧
      ((m.v.get y).toNat % 32 + k) % 32 = p.row.val ∧
      ((m.v.get x).toNat % 64 + b) % 64 = p.column.val

variable {m : Machine} {x y n : UInt8} {p : Pixel}

instance : Decidable (m.SpriteCovers x y n p) :=
  inferInstanceAs (Decidable (∃ k < n.toNat, ∃ b < 8, _ ∧ _ ∧ _))

theorem length_sprite (m : Machine) (n : UInt8) : (m.sprite n).length = n.toNat :=
  Memory.length_readBlock m.memory m.i n.toNat

theorem getElem_sprite {k : ℕ} (hk : k < (m.sprite n).length) :
    (m.sprite n)[k] = m.memory.cells[(m.i.toNat + k) % 4096] := by
  rw [← Memory.read_add_ofNat]
  exact Memory.getElem_readBlock m.memory m.i hk

theorem length_sprite_le (hn : n.toNat ≤ 15) : (m.sprite n).length ≤ 32 := by
  rw [length_sprite]
  omega

/-- What the sprite covers is what its bits hit. -/
theorem one_le_hitCount_sprite_iff :
    1 ≤ Display.hitCount (m.v.get x).toUInt64 (m.v.get y).toUInt64 (m.sprite n) p
      ↔ m.SpriteCovers x y n p := by
  rw [Display.one_le_hitCount_iff, SpriteCovers]
  constructor
  · rintro ⟨k, b, hbit⟩
    obtain ⟨hset, hrow, hcolumn⟩ := Display.bitHits_iff.1 hbit
    refine ⟨k, by rw [← length_sprite m]; exact k.isLt, b, b.isLt, ?_, ?_, ?_⟩
    · rwa [Fin.getElem_fin, getElem_sprite] at hset
    · rwa [UInt8.toNat_toUInt64, ← Nat.mod_add_mod] at hrow
    · rwa [UInt8.toNat_toUInt64, ← Nat.mod_add_mod] at hcolumn
  · rintro ⟨k, hk, b, hb, hset, hrow, hcolumn⟩
    have hk' : k < (m.sprite n).length := by rwa [length_sprite]
    refine ⟨⟨k, hk'⟩, ⟨b, hb⟩, Display.bitHits_iff.2 ⟨?_, ?_, ?_⟩⟩
    · rwa [Fin.getElem_fin, getElem_sprite]
    · rwa [UInt8.toNat_toUInt64, ← Nat.mod_add_mod]
    · rwa [UInt8.toNat_toUInt64, ← Nat.mod_add_mod]

theorem lit_drawSprite (hn : n.toNat ≤ 15) (p : Pixel) :
    (m.drawSprite x y n).display.lit p
      = (m.display.lit p ^^ decide (m.SpriteCovers x y n p)) := by
  refine (Display.lit_draw m.display p).trans ?_
  simp only [Display.odd_hitCount_iff (length_sprite_le hn), one_le_hitCount_sprite_iff]

/-- A sprite collides if a pixel goes out. -/
theorem drawSprite_collides_iff (hn : n.toNat ≤ 15) :
    (m.display.draw (m.v.get x).toUInt64 (m.v.get y).toUInt64 (m.sprite n)).2 = true ↔
      ∃ p, m.display.lit p = true ∧ (m.drawSprite x y n).display.lit p = false := by
  rw [Display.draw_collides_iff_of_le (length_sprite_le hn)]
  refine exists_congr fun p => ?_
  rw [lit_drawSprite hn, one_le_hitCount_sprite_iff]
  -- a pixel that was on goes out if it is covered
  by_cases hlit : m.display.lit p = true
  · simp [hlit]
  · simp [hlit]

/-- What the instruction leaves, wherever it is drawn from and to and whatever registers it names.
Each pixel is flipped that the sprite covers. The flag tells whether a pixel went out, no other
register is changed, and of the rest of the machine only that the display has been touched and the
program counter, which goes on by 2. -/
theorem draw_xors_sprite (m : Machine) (x y n : UInt8) (hn : n.toNat ≤ 15) :
    ∃ m', m.execute (.draw x y n) = .ok m' ∧
      (∀ p, m'.display.lit p = (m.display.lit p ^^ decide (m.SpriteCovers x y n p))) ∧
      (m'.v.get Registers.flag = 1 ↔ ∃ p, m.display.lit p = true ∧ m'.display.lit p = false) ∧
      (m'.v.get Registers.flag = 0 ↔ ¬∃ p, m.display.lit p = true ∧ m'.display.lit p = false) ∧
      (∀ r, r.toNat % 16 ≠ 15 → m'.v.get r = m.v.get r) ∧
      m' = { m with display := m'.display, v := m'.v, needDraw := true, pc := m.pc + 2 } := by
  have hlimit : n ≤ spriteLimit := UInt8.le_iff_toNat_le.2 hn
  have hexecute : m.execute (.draw x y n) = .ok (m.drawSprite x y n).next := by
    rw [execute, if_pos hlimit]
  refine ⟨_, hexecute, lit_drawSprite hn, ?_, ?_, fun r hr => ?_, rfl⟩
  · exact (Registers.get_setFlag_eq_one_iff m.v).trans (drawSprite_collides_iff hn)
  · exact (Registers.get_setFlag_eq_zero_iff m.v).trans (not_congr (drawSprite_collides_iff hn))
  · exact Registers.get_set_of_ne m.v (Ne.symm hr) _

/-- From the last address on and with the flag for both coordinates, three rows are drawn of which
the later two are the font's: the second one falls on the first row of the screen and puts out the
pixel in its corner. -/
theorem draw_xors_sprite_of_flag :
    let m : Machine := { initial (.ofSeed 0) with
      i := 0xFFFF
      v := Registers.zeros.set Registers.flag 255
      display := (Display.blank.draw 0 0 [0x80]).1 }
    ∃ m', m.execute (.draw Registers.flag Registers.flag 3) = .ok m' ∧
      m'.display.lit ⟨0, 0⟩ = false ∧ m'.display.lit ⟨63, 1⟩ = true ∧
      m'.v.get Registers.flag = 1 ∧ m'.pc = 0x202 := by
  intro m
  obtain ⟨m', hm', hlit, hflag, -, -, heq⟩ :=
    draw_xors_sprite m Registers.flag Registers.flag 3 (by decide)
  have hcorner : m.display.lit ⟨0, 0⟩ = true ∧ m.SpriteCovers 0xF 0xF 3 ⟨0, 0⟩ := by decide +kernel
  have hedge : m.display.lit ⟨63, 1⟩ = false ∧ m.SpriteCovers 0xF 0xF 3 ⟨63, 1⟩ := by
    decide +kernel
  have hout : m'.display.lit ⟨0, 0⟩ = false := by
    rw [hlit, hcorner.1, Registers.flag, decide_eq_true hcorner.2]
    rfl
  refine ⟨m', hm', hout, ?_, hflag.2 ⟨⟨0, 0⟩, hcorner.1, hout⟩, ?_⟩
  · rw [hlit, hedge.1, Registers.flag, decide_eq_true hedge.2]
    rfl
  · rw [heq]
    rfl

end Chip8.Machine
