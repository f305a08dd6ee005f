import Chip8.Text.Record

/-!
# The display

A grid of 64 by 32 pixels, each on or off. Sprites are drawn by flipping pixels: a sprite is a list
of rows of eight bits, its most significant bit leftmost, and it wraps around both edges. `hits`
lists the pixels that a sprite flips, in the order in which it does, and `strike` flips them one
after the other while watching for one that was on. A pixel may be hit more than once, but only by a
sprite of more than 32 rows.
-/

namespace Chip8

/-- The position of a pixel. -/
structure Pixel where
  /-- The column, from the left. -/
  column : Fin 64
  /-- The row, from the top. -/
  row : Fin 32
deriving DecidableEq, Repr

namespace Pixel

/-- The position of a pixel in the order of rows from the top, each from the left. -/
def index (p : Pixel) : Fin 2048 :=
  ⟨64 * p.row.val + p.column.val, by omega⟩

/-- Different pixels have different places in the order. -/
theorem index_inj {p q : Pixel} : p.index = q.index ↔ p = q := by
  refine ⟨fun h => ?_, fun h => h ▸ rfl⟩
  have e : 64 * p.row.val + p.column.val = 64 * q.row.val + q.column.val := congrArg Fin.val h
  have hp := p.column.isLt
  have hq := q.column.isLt
  obtain ⟨c, r⟩ := p
  obtain ⟨c', r'⟩ := q
  simp only [Pixel.mk.injEq, Fin.ext_iff] at *
  omega

/-- The pixel that wide coordinates name after wrapping around the edges. -/
def wrap (x y : UInt64) : Pixel :=
  ⟨⟨x.toNat % 64, Nat.mod_lt _ (by decide)⟩,
    ⟨y.toNat % 32, Nat.mod_lt _ (by decide)⟩⟩

/-- All pixels of a row, from the left. -/
def ofRow (y : Fin 32) : List Pixel :=
  (List.finRange 64).map fun x => ⟨x, y⟩

/-- All pixels, the rows from the top and each from the left. -/
def all : List Pixel :=
  (List.finRange 32).flatMap ofRow

end Pixel

/-- The state of every pixel. -/
structure Display where
  /-- Whether each pixel is on, the rows from the top and each from the left. -/
  pixels : Vector Bool 2048
deriving DecidableEq

namespace Display

/-- Every pixel off. -/
def blank : Display :=
  ⟨Vector.replicate 2048 false⟩

/-- Whether a pixel is on. -/
def lit (d : Display) (p : Pixel) : Bool :=
  d.pixels[p.index]

@[simp]
theorem lit_blank (p : Pixel) : blank.lit p = false := by
  simp [lit, blank, Fin.getElem_fin]

/-- Turns a pixel on if it is off, and off if it is on. -/
def flip (d : Display) (p : Pixel) : Display :=
  ⟨d.pixels.set p.index.val (!d.lit p) p.index.isLt⟩

/-- Flipping a pixel changes that pixel and no other. -/
theorem lit_flip (d : Display) (p q : Pixel) :
    (d.flip p).lit q = if p = q then !d.lit q else d.lit q := by
  simp only [lit, flip, Fin.getElem_fin, Vector.getElem_set, Fin.val_inj, Pixel.index_inj]
  split
  · next h => rw [h]
  · rfl

/-- Flips pixels one after the other, and tells whether one of them was on when its turn came. -/
def strike (d : Display) (collision : Bool) : List Pixel → Display × Bool
  | [] => (d, collision)
  | p :: rest =>
    if d.lit p then (d.flip p).strike true rest else (d.flip p).strike collision rest

/-- The pixels that row `k` of a sprite flips, from the left: one for each bit that is set. -/
def rowHits (x y : UInt64) (row : UInt8) (k : Nat) : List Pixel :=
  (List.range 8).filterMap fun b =>
    if row.toNat.testBit (7 - b) then
      some (Pixel.wrap (x + UInt64.ofNat b) (y + UInt64.ofNat k))
    else none

/-- The pixels that a sprite with its top left corner at `(x, y)` flips, in order. Coordinates are
64-bit words, and sums of them wrap before they are reduced to the grid. -/
def hits (x y : UInt64) (sprite : List UInt8) : List Pixel :=
  sprite.zipIdx.flatMap fun (row, k) => rowHits x y row k

/-- Draws a sprite with its top left corner at `(x, y)`, and tells whether it hit a pixel that was
on. -/
def draw (d : Display) (x y : UInt64) (sprite : List UInt8) : Display × Bool :=
  d.strike false (hits x y sprite)

/-! ### Text -/

/-- How many pixels are on. -/
def litCount (d : Display) : Nat :=
  d.pixels.count true

/-- The character of a pixel: `#` if it is on and a space if it is off. -/
def character (d : Display) (p : Pixel) : Char :=
  if d.lit p then '#' else ' '

/-- The characters of a row, from the left. -/
def rowText (d : Display) (y : Fin 32) : List Char :=
  (Pixel.ofRow y).map d.character

/-- The display as characters: its rows from the top, each ended by a line break. -/
def characters (d : Display) : List Char :=
  (List.finRange 32).flatMap fun y => d.rowText y ++ ['\n']

/-- The display as text. -/
def text (d : Display) : String :=
  String.ofList d.characters

/-- A summary for diagnostics. -/
def describe (d : Display) : String :=
  "Display \x7b " ++ Text.decimal d.litCount ++ " pixels lit \x7d"

end Display

end Chip8
