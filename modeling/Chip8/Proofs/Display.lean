import Chip8.Display
import Mathlib.Algebra.BigOperators.Fin
import Mathlib.Algebra.Group.Nat.Even
import Mathlib.Data.Fintype.Prod
import Mathlib.Data.List.Count

/-!
# What drawing does to each pixel

A sprite flips pixels one after the other, and reports a collision if one of them is on when its
turn comes. For the display that this leaves, the order does not matter: a pixel ends up flipped if
it was struck an odd number of times (`lit_strike`). For the collision it comes to whether a pixel
that was on is struck at all, or any pixel twice (`strike_collides_iff`), since of two flips of one
pixel one finds it on.

How often a sprite strikes a pixel is a number of set bits (`hitCount`, `count_hits`). It is at most
one unless the sprite has more rows than the screen (`hitCount_le_one`).

Several sprites (`drawAll`) together flip the pixels that they hit an odd number of times
(`lit_drawAll`). So they may change places, and what is drawn twice is not seen.
-/

namespace Chip8

theorem decide_odd_add (a b : ℕ) : decide (Odd (a + b)) = (decide (Odd a) ^^ decide (Odd b)) := by
  by_cases ha : Odd a
  · simp only [Nat.odd_add, ha, true_iff, ← Nat.not_odd_iff_even, decide_not, decide_true,
      Bool.true_xor]
  · simp only [Nat.odd_add, ha, false_iff, Nat.not_even_iff_odd, decide_false, Bool.false_xor]

theorem Pixel.wrap_eq_iff {x y : UInt64} {p : Pixel} :
    wrap x y = p ↔ y.toNat % 32 = p.row.val ∧ x.toNat % 64 = p.column.val := by
  obtain ⟨c, r⟩ := p
  simp only [wrap, Pixel.mk.injEq, Fin.ext_iff]
  exact and_comm

namespace Display

/-! ### Pixels struck one after the other -/

section

variable (d : Display) (collision : Bool)

theorem strike_cons (p : Pixel) (rest : List Pixel) :
    d.strike collision (p :: rest) = (d.flip p).strike (collision || d.lit p) rest := by
  rw [strike]
  split
  · next h => rw [h, Bool.or_true]
  · next h => rw [Bool.eq_false_iff.2 h, Bool.or_false]

/-- Pixels that come after others are struck on the display that these leave. -/
theorem strike_append (ps qs : List Pixel) :
    d.strike collision (ps ++ qs)
      = (d.strike collision ps).1.strike (d.strike collision ps).2 qs := by
  induction ps generalizing d collision with
  | nil => rfl
  | cons p rest ih =>
    rw [List.cons_append, strike_cons, strike_cons]
    exact ih _ _

/-- A pixel changes if it is struck an odd number of times. -/
theorem lit_strike (ps : List Pixel) (q : Pixel) :
    (d.strike collision ps).1.lit q = (d.lit q ^^ decide (Odd (ps.count q))) := by
  induction ps generalizing d collision with
  | nil => simp [strike]
  | cons p rest ih =>
    rw [strike_cons, ih, lit_flip]
    by_cases h : p = q
    · -- one flip now, and the others of the same pixel later
      subst h
      rw [if_pos rfl, List.count_cons_self, decide_odd_add, decide_eq_true odd_one, Bool.xor_true,
        Bool.not_xor, Bool.xor_not]
    · rw [if_neg h, List.count_cons_of_ne h]

/-- A collision is reported if a pixel that was on is struck, or some pixel more than once. -/
theorem strike_collides_iff (ps : List Pixel) :
    (d.strike collision ps).2 = true ↔
      collision = true ∨ (∃ p ∈ ps, d.lit p = true) ∨ ¬ps.Nodup := by
  induction ps generalizing d collision with
  | nil => simp [strike]
  | cons p rest ih =>
    rw [strike_cons, ih]
    by_cases hp : p ∈ rest
    · -- one of the two flips of `p` finds it on
      have hstruck : ¬(p :: rest).Nodup := fun h => (List.nodup_cons.1 h).1 hp
      refine iff_of_true ?_ (.inr (.inr hstruck))
      by_cases hlit : d.lit p = true
      · exact .inl (by rw [hlit, Bool.or_true])
      · exact .inr (.inl ⟨p, hp, by simp [lit_flip, hlit]⟩)
    · -- the flip of `p` shows in no pixel that is struck later
      have hothers : (∃ q ∈ rest, (d.flip p).lit q = true) ↔ ∃ q ∈ rest, d.lit q = true := by
        refine exists_congr fun q => and_congr_right fun hq => ?_
        rw [lit_flip, if_neg fun (h : p = q) => hp (h ▸ hq)]
      simp only [hothers, Bool.or_eq_true, or_assoc, List.mem_cons, exists_eq_or_imp,
        List.nodup_cons, hp, not_false_eq_true, true_and]

end

/-! ### How often a sprite hits a pixel -/

/-- Whether the bit `b` of a row, counted from the left, is set and falls on a pixel. The row is row
`k` of a sprite with its top left corner at `(x, y)`. -/
def BitHits (x y : UInt64) (p : Pixel) (row : UInt8) (k b : ℕ) : Prop :=
  row.toNat.testBit (7 - b) = true ∧ (y + UInt64.ofNat k).toNat % 32 = p.row.val ∧
    (x + UInt64.ofNat b).toNat % 64 = p.column.val

instance (x y : UInt64) (p : Pixel) (row : UInt8) (k b : ℕ) : Decidable (BitHits x y p row k b) :=
  inferInstanceAs (Decidable (_ ∧ _ ∧ _))

/-- How many bits of a sprite are set and fall on a pixel. -/
def hitCount (x y : UInt64) (sprite : List UInt8) (p : Pixel) : ℕ :=
  (Finset.univ.filter fun hit : Fin sprite.length × Fin 8 =>
    BitHits x y p sprite[hit.1] hit.1 hit.2).card

variable {d : Display} {x y : UInt64} {sprite : List UInt8} {p : Pixel}

theorem count_rowHits (row : UInt8) (k : ℕ) :
    (rowHits x y row k).count p = ∑ b : Fin 8, if BitHits x y p row k b then 1 else 0 := by
  have hbits : List.range 8 = List.ofFn fun b : Fin 8 => b.val := by decide
  rw [rowHits, List.filterMap_eq_flatMap_toList, List.count_flatMap, hbits, List.map_ofFn,
    List.sum_ofFn]
  refine Finset.sum_congr rfl fun b _ => ?_
  rw [Function.comp_apply, Function.comp_apply]
  by_cases hset : row.toNat.testBit (7 - b) = true
  · have hiff : BitHits x y p row k b ↔
        Pixel.wrap (x + UInt64.ofNat b) (y + UInt64.ofNat k) = p := by
      rw [BitHits, Pixel.wrap_eq_iff]
      exact and_iff_right hset
    simp [hset, hiff, List.count_singleton]
  · simp [hset, BitHits]

theorem count_hits : (hits x y sprite).count p = hitCount x y sprite p := by
  rw [hitCount, Finset.card_filter, Fintype.sum_prod_type, hits, List.count_flatMap]
  have hrows : sprite.zipIdx = List.ofFn fun k : Fin sprite.length => (sprite[k], k.val) := by
    refine List.ext_getElem (by simp) fun k hk hk' => ?_
    simp
  rw [hrows, List.map_ofFn, List.sum_ofFn]
  exact Finset.sum_congr rfl fun k _ => count_rowHits sprite[k] k

/-- That sums of coordinates wrap does not show, since the sides of the screen divide `2⁶⁴`. -/
theorem bitHits_iff {row : UInt8} {k b : ℕ} :
    BitHits x y p row k b ↔ row.toNat.testBit (7 - b) = true ∧ (y.toNat + k) % 32 = p.row.val ∧
      (x.toNat + b) % 64 = p.column.val := by
  have hrow : (y + UInt64.ofNat k).toNat % 32 = (y.toNat + k) % 32 := by
    rw [UInt64.toNat_add, UInt64.toNat_ofNat']
    omega
  have hcolumn : (x + UInt64.ofNat b).toNat % 64 = (x.toNat + b) % 64 := by
    rw [UInt64.toNat_add, UInt64.toNat_ofNat']
    omega
  rw [BitHits, hrow, hcolumn]

theorem one_le_hitCount_iff :
    1 ≤ hitCount x y sprite p ↔
      ∃ k : Fin sprite.length, ∃ b : Fin 8, BitHits x y p sprite[k] k b := by
  rw [hitCount, Finset.one_le_card, Finset.filter_nonempty_iff]
  simp

/-- Only a sprite of more rows than the screen can hit a pixel twice. -/
theorem hitCount_le_one (h : sprite.length ≤ 32) (p : Pixel) : hitCount x y sprite p ≤ 1 := by
  rw [hitCount, Finset.card_le_one]
  rintro ⟨k, b⟩ hhit ⟨k', b'⟩ hhit'
  obtain ⟨-, hrow, hcolumn⟩ := bitHits_iff.1 (Finset.mem_filter.1 hhit).2
  obtain ⟨-, hrow', hcolumn'⟩ := bitHits_iff.1 (Finset.mem_filter.1 hhit').2
  have hk := k.isLt
  have hk' := k'.isLt
  have hb := b.isLt
  have hb' := b'.isLt
  simp only [Prod.mk.injEq, Fin.ext_iff] at *
  omega

theorem odd_hitCount_iff (h : sprite.length ≤ 32) :
    Odd (hitCount x y sprite p) ↔ 1 ≤ hitCount x y sprite p := by
  have hle := hitCount_le_one (x := x) (y := y) h p
  rw [Nat.odd_iff]
  omega

/-! ### Drawing a sprite -/

theorem lit_draw (d : Display) (p : Pixel) :
    (d.draw x y sprite).1.lit p = (d.lit p ^^ decide (Odd (hitCount x y sprite p))) := by
  rw [draw, lit_strike, count_hits]

theorem draw_collides_iff :
    (d.draw x y sprite).2 = true ↔
      (∃ p, 1 ≤ hitCount x y sprite p ∧ d.lit p = true) ∨ ∃ p, 2 ≤ hitCount x y sprite p := by
  rw [draw, strike_collides_iff, List.nodup_iff_count_le_one]
  simp only [← List.count_pos_iff, count_hits, Bool.false_eq_true, false_or, not_forall, not_le]
  rfl

theorem draw_collides_iff_of_le (h : sprite.length ≤ 32) :
    (d.draw x y sprite).2 = true ↔ ∃ p, 1 ≤ hitCount x y sprite p ∧ d.lit p = true := by
  have hno : ¬∃ p, 2 ≤ hitCount x y sprite p := by
    rintro ⟨p, hp⟩
    exact absurd (hitCount_le_one h p) (Nat.not_le_of_lt hp)
  rw [draw_collides_iff, or_iff_left hno]

/-- A sprite of any height, drawn anywhere, flips the pixels that an odd number of its bits fall on.
It collides if one of its bits falls on a pixel that was on, or two on the same. No two do so unless
the sprite has more rows than the screen, so otherwise it collides if it hits a pixel that was on.
-/
theorem draw_counts_hits (d : Display) (x y : UInt64) (sprite : List UInt8) :
    (∀ p, (d.draw x y sprite).1.lit p = (d.lit p ^^ decide (Odd (hitCount x y sprite p)))) ∧
      ((d.draw x y sprite).2 = true ↔
        (∃ p, 1 ≤ hitCount x y sprite p ∧ d.lit p = true) ∨ ∃ p, 2 ≤ hitCount x y sprite p) ∧
      (sprite.length ≤ 32 →
        (∀ p, hitCount x y sprite p ≤ 1) ∧
          ((d.draw x y sprite).2 = true ↔ ∃ p, 1 ≤ hitCount x y sprite p ∧ d.lit p = true)) := by
  refine ⟨lit_draw d, draw_collides_iff, fun hheight => ⟨hitCount_le_one hheight, ?_⟩⟩
  exact draw_collides_iff_of_le hheight

/-- Drawn with its corner one column left of the screen, in the last row, the second row of a sprite
hits the pixel in the top left corner and turns it off. -/
theorem draw_counts_hits_of_wrapped :
    let d := (blank.draw 0 0 [0x80]).1
    let after := d.draw 0xFFFFFFFFFFFFFFFF 31 [0xC0, 0x40]
    after.1.lit ⟨0, 0⟩ = false ∧ after.1.lit ⟨63, 31⟩ = true ∧ after.2 = true := by
  intro d after
  obtain ⟨hlit, -, hlow⟩ := draw_counts_hits d 0xFFFFFFFFFFFFFFFF 31 [0xC0, 0x40]
  have hbefore : d.lit ⟨0, 0⟩ = true ∧ d.lit ⟨63, 31⟩ = false := by decide +kernel
  have hcorner : hitCount 0xFFFFFFFFFFFFFFFF 31 [0xC0, 0x40] ⟨0, 0⟩ = 1 := by decide +kernel
  have hopposite : hitCount 0xFFFFFFFFFFFFFFFF 31 [0xC0, 0x40] ⟨63, 31⟩ = 1 := by decide +kernel
  refine ⟨?_, ?_, ?_⟩
  · rw [hlit, hbefore.1, hcorner]
    rfl
  · rw [hlit, hbefore.2, hopposite]
    rfl
  · exact (hlow (by decide)).2.2 ⟨⟨0, 0⟩, hcorner.ge, hbefore.1⟩

/-- A sprite one row taller than the screen may hit its own first row. -/
example : (blank.draw 0 0 (0x80 :: List.replicate 31 0 ++ [0x80])).2 = true := by decide +kernel

/-! ### Drawing several sprites -/

/-- A display is known by its pixels. -/
theorem ext_lit {d d' : Display} (h : ∀ p, d.lit p = d'.lit p) : d = d' := by
  obtain ⟨pixels⟩ := d
  obtain ⟨pixels'⟩ := d'
  refine congrArg Display.mk (Vector.ext fun i hi => ?_)
  -- the pixel at place `i` of the order
  have hp := h ⟨⟨i % 64, Nat.mod_lt _ (by decide)⟩, ⟨i / 64, by omega⟩⟩
  simpa only [lit, Pixel.index, Fin.getElem_fin, Nat.div_add_mod] using hp

end Display

/-- A sprite and the place of its top left corner. -/
structure Stamp where
  /-- The column of the corner, before it is reduced to the screen. -/
  x : UInt64
  /-- The row of the corner, before it is reduced to the screen. -/
  y : UInt64
  /-- The rows from the top, of any number. -/
  sprite : List UInt8

/-- The sprite at the place on the screen that its corner wraps around to. -/
def Stamp.onScreen (s : Stamp) : Stamp :=
  { s with x := s.x % 64, y := s.y % 32 }

namespace Display

/-- Draws sprites one after the other, and tells of each whether it collided. -/
def drawAll (d : Display) : List Stamp → Display × List Bool
  | [] => (d, [])
  | s :: rest =>
    let drawn := d.draw s.x s.y s.sprite
    let later := drawn.1.drawAll rest
    (later.1, drawn.2 :: later.2)

/-- How many bits of some sprites are set and fall on a pixel. -/
def hitsOf (stamps : List Stamp) (p : Pixel) : ℕ :=
  (stamps.map fun s => hitCount s.x s.y s.sprite p).sum

/-- All that some sprites leave of the order in which they are drawn is how often each pixel is hit.
-/
theorem lit_drawAll (d : Display) (stamps : List Stamp) (p : Pixel) :
    (d.drawAll stamps).1.lit p = (d.lit p ^^ decide (Odd (hitsOf stamps p))) := by
  induction stamps generalizing d with
  | nil => simp [drawAll, hitsOf]
  | cons s rest ih =>
    have hsum : hitsOf (s :: rest) p = hitCount s.x s.y s.sprite p + hitsOf rest p := List.sum_cons
    rw [hsum, decide_odd_add, ← Bool.xor_assoc, ← lit_draw]
    exact ih _

theorem hitsOf_perm {stamps others : List Stamp} (h : others.Perm stamps) (p : Pixel) :
    hitsOf others p = hitsOf stamps p :=
  (h.map _).sum_eq

theorem hitsOf_append (stamps others : List Stamp) (p : Pixel) :
    hitsOf (stamps ++ others) p = hitsOf stamps p + hitsOf others p := by
  rw [hitsOf, List.map_append, List.sum_append]
  rfl

/-- A sprite hits the same pixels in the same order wherever its corner is before it is reduced. -/
theorem hits_onScreen (s : Stamp) :
    hits s.onScreen.x s.onScreen.y s.onScreen.sprite = hits s.x s.y s.sprite := by
  refine List.flatMap_congr fun ⟨row, k⟩ _ => List.filterMap_congr fun b _ => ?_
  have hwrap : Pixel.wrap (s.x % 64 + UInt64.ofNat b) (s.y % 32 + UInt64.ofNat k)
      = Pixel.wrap (s.x + UInt64.ofNat b) (s.y + UInt64.ofNat k) := by
    simp only [Pixel.wrap, Pixel.mk.injEq, Fin.mk.injEq, UInt64.toNat_add, UInt64.toNat_mod,
      UInt64.reduceToNat]
    omega
  rw [← hwrap]
  rfl

theorem drawAll_congr {stamps others : List Stamp}
    (h : List.Forall₂ (fun s t => t = s ∨ t = s.onScreen) stamps others) (d : Display) :
    d.drawAll others = d.drawAll stamps := by
  induction h generalizing d with
  | nil => rfl
  | @cons s t stamps others hst _ ih =>
    have hdraw : d.draw t.x t.y t.sprite = d.draw s.x s.y s.sprite := by
      rcases hst with rfl | rfl
      · rfl
      · rw [draw, draw, hits_onScreen]
    rw [drawAll, drawAll, hdraw, ih]

/-- Sprites of any height, drawn anywhere, leave the same display in whatever order they are drawn,
and the display as it was if all of them are drawn twice. Any of them may as well be drawn where its
corner wraps around to: neither the display nor what collides is another. -/
theorem draws_commute_and_cancel (d : Display) (stamps : List Stamp) :
    (∀ others, others.Perm stamps → (d.drawAll others).1 = (d.drawAll stamps).1) ∧
      (∀ twice, twice.Perm (stamps ++ stamps) → (d.drawAll twice).1 = d) ∧
      ∀ others, List.Forall₂ (fun s t => t = s ∨ t = s.onScreen) stamps others →
        d.drawAll others = d.drawAll stamps := by
  refine ⟨fun others hperm => ?_, fun twice hperm => ?_, fun others h => drawAll_congr h d⟩
  · refine ext_lit fun p => ?_
    rw [lit_drawAll, lit_drawAll, hitsOf_perm hperm]
  · refine ext_lit fun p => ?_
    have heven : ¬Odd (hitsOf twice p) := by
      rw [hitsOf_perm hperm, hitsOf_append, Nat.not_odd_iff_even]
      exact ⟨_, rfl⟩
    rw [lit_drawAll, decide_eq_false heven, Bool.xor_false]

/-- A sprite of 40 rows over the edge of the screen and one of a single pixel may be drawn in either
order, both twice, and the tall one from the place that it wraps around to. -/
theorem draws_commute_and_cancel_of_tall :
    let tall : Stamp := ⟨0xFFFFFFFFFFFFFFFD, 30, List.replicate 40 0xFF⟩
    let dot : Stamp := ⟨64, 32, [0x80]⟩
    (blank.drawAll [dot, tall]).1 = (blank.drawAll [tall, dot]).1 ∧
      (blank.drawAll [tall, dot, dot, tall]).1 = blank ∧
      blank.drawAll [⟨61, 30, List.replicate 40 0xFF⟩, dot] = blank.drawAll [tall, dot] := by
  intro tall dot
  obtain ⟨hperm, htwice, hplace⟩ := draws_commute_and_cancel blank [tall, dot]
  have hswap : [dot, tall].Perm [tall, dot] := .swap tall dot []
  have hscreen : tall.onScreen = ⟨61, 30, List.replicate 40 0xFF⟩ := by
    simp only [tall, Stamp.onScreen]
    congr 1
  refine ⟨hperm [dot, tall] hswap, ?_, ?_⟩
  · exact htwice [tall, dot, dot, tall] ((hswap.cons dot).cons tall)
  · rw [← hscreen]
    exact hplace [tall.onScreen, dot] (.cons (.inr rfl) (.cons (.inl rfl) .nil))

/-- Which sprite collides does depend on the order: of two on the same pixel, it is the later one.
-/
example :
    let dot : Stamp := ⟨0, 0, [0x80]⟩
    let bar : Stamp := ⟨0, 0, [0xC0]⟩
    (blank.drawAll [dot, bar]).2 = [false, true] ∧ (blank.drawAll [bar, dot]).2 = [false, true] := by
  decide +kernel

end Display

end Chip8
