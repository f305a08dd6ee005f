import Chip8.Terminal.Action

/-!
# What a terminal shows

A terminal seen as a grid of characters with a cursor: `Grid.after` is the grid after a list of
actions. Printing writes the characters of a text into consecutive columns, from the cursor on, and
leaves the cursor behind them; the actions that concern colours, the bell and the visibility of the
cursor change no character.
-/

namespace Chip8.Terminal

/-- The characters on a terminal, and its cursor. -/
structure Grid where
  /-- The character in each column and row. -/
  cell : Nat → Nat → Char
  /-- The column of the cursor. -/
  column : Nat
  /-- The row of the cursor. -/
  row : Nat

namespace Grid

/-- A terminal with nothing on it. -/
def blank : Grid :=
  ⟨fun _ _ => ' ', 0, 0⟩

/-- Writes a character at the cursor, which moves on by one column. -/
def put (g : Grid) (c : Char) : Grid where
  cell := fun x y => if x = g.column ∧ y = g.row then c else g.cell x y
  column := g.column + 1
  row := g.row

/-- Does as told. -/
def act (g : Grid) : Action → Grid
  | .moveTo column row => { g with column, row }
  | .print text => text.toList.foldl put g
  | .clear => { g with cell := blank.cell }
  | .enterAlternateScreen | .leaveAlternateScreen | .hideCursor | .showCursor | .foreground _
  | .resetColour | .bell => g

/-- The grid after several actions one after the other. -/
def after (g : Grid) (actions : List Action) : Grid :=
  actions.foldl act g

end Grid

end Chip8.Terminal
