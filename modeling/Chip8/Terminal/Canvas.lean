import Chip8.Runner.Output
import Chip8.Terminal.Action

/-!
# The display on a terminal

A pixel is two columns of a terminal row, so that it is about square: the pixel in column `x` and
row `y` of the display occupies the columns `2x + 1` and `2x + 2` of the terminal's row `y + 1`, and
a border surrounds them all. A `Canvas` remembers what it has drawn, and draws of a new frame only
the pixels that differ.
-/

namespace Chip8.Terminal

/-! ### Pixels -/

/-- The characters of a pixel: two full blocks if it is on, and two spaces if it is off. -/
def pixelText (on : Bool) : String :=
  if on then "██" else "  "

/-- Draws one pixel. -/
def drawPixel (p : Pixel) (on : Bool) : List Action :=
  [.moveTo (2 * p.column.val + 1) (p.row.val + 1), .print (pixelText on)]

/-- The pixels in which two displays differ, the rows from the top and each from the left. -/
def differences (old new : Display) : List Pixel :=
  Pixel.all.filter fun p => old.lit p != new.lit p

/-- Draws the pixels of a new frame that differ from the old one. -/
def redraw (old new : Display) : List Action :=
  (differences old new).flatMap fun p => drawPixel p (new.lit p)

/-! ### The device -/

/-- A terminal as an output device. -/
structure Canvas where
  /-- What is on the terminal. -/
  shown : Display
  /-- Whether the bell stays silent. -/
  mute : Bool
  /-- What the terminal has been told to do. -/
  actions : Array Action

namespace Canvas

/-- A blank terminal. -/
def blank (mute : Bool) : Canvas :=
  ⟨.blank, mute, #[]⟩

/-- Draws what a new frame changes. -/
def present (c : Canvas) (frame : Display) : Canvas :=
  { c with shown := frame, actions := c.actions ++ redraw c.shown frame }

/-- Rings the bell when the sound starts, unless muted. The bell is the only sound there is, so
nothing is done when it stops. -/
def sound (c : Canvas) (on : Bool) : Canvas :=
  if on && !c.mute then { c with actions := c.actions.push .bell } else c

instance : OutputDevice Canvas where
  present := present
  sound := sound

end Canvas

/-! ### The border -/

/-- The last row of the terminal that is in use. -/
def bottomRow : Nat := 33

/-- The last column of the terminal that is in use. -/
def rightColumn : Nat := 129

/-- The character of the border at a place, if it is on the border. -/
def borderCharacter? (column row : Nat) : Option Char :=
  if row = 0 then
    some (if column = 0 then '┏' else if column = rightColumn then '┓' else '━')
  else if row = bottomRow then
    some (if column = 0 then '┗' else if column = rightColumn then '┛' else '━')
  else if column = 0 ∨ column = rightColumn then some '┃'
  else none

/-- Draws the border along one row. -/
def borderRow (row : Nat) : List Action :=
  (List.range (rightColumn + 1)).flatMap fun column =>
    match borderCharacter? column row with
    | some c => [.moveTo column row, .print c.toString]
    | none => []

/-- Draws the border, with a title in its top edge. -/
def border (title : String) : List Action :=
  (List.range (bottomRow + 1)).flatMap borderRow
    ++ [.moveTo 2 0, .print (" " ++ title ++ " ")]

/-! ### Before and after -/

/-- Prepares a terminal for drawing, and leaves it ready for pixels of some colour. -/
def opening (title : String) (colour : Colour) : List Action :=
  [.enterAlternateScreen, .hideCursor, .clear] ++ border title ++ [.foreground colour]

/-- Leaves a terminal as it was found. -/
def closing : List Action :=
  [.resetColour, .leaveAlternateScreen, .showCursor]

end Chip8.Terminal
