import Chip8.Text.Numeral

/-!
# Terminal actions

What can be sent to a terminal, as data, and the control codes that stand for it. Positions count
from zero at the top left; the codes count from one and name the row first.
-/

namespace Chip8.Terminal

/-- A colour for characters. -/
inductive Colour where
  | white
  | red
  | green
  | blue
  | yellow
  | magenta
  | cyan
deriving DecidableEq, Repr

namespace Colour

/-- The number of a colour in the terminal's palette. -/
def code : Colour → Nat
  | white => 15
  | red => 9
  | green => 10
  | blue => 12
  | yellow => 11
  | magenta => 13
  | cyan => 14

/-- The name of a colour for diagnostics. -/
def describe : Colour → String
  | white => "White"
  | red => "Red"
  | green => "Green"
  | blue => "Blue"
  | yellow => "Yellow"
  | magenta => "Magenta"
  | cyan => "Cyan"

/-- The lower-case form of a character, as far as colour names are concerned: of all characters only
the capital letters A to Z and the Kelvin sign U+212A have an ASCII letter as their lower-case
form. -/
def lower (c : Char) : Char :=
  if c = '\u212a' then 'k' else c.toLower

/-- The colour that a name stands for, whatever the case of its letters; an unknown name stands for
white. -/
def ofName (name : String) : Colour :=
  match String.ofList (name.toList.map lower) with
  | "red" => red
  | "green" => green
  | "blue" => blue
  | "yellow" => yellow
  | "pink" => magenta
  | "cyan" => cyan
  | _ => white

end Colour

/-- Something that a terminal can be told to do. -/
inductive Action where
  /-- Switch to the alternate screen. -/
  | enterAlternateScreen
  /-- Switch back from the alternate screen. -/
  | leaveAlternateScreen
  /-- Hide the cursor. -/
  | hideCursor
  /-- Show the cursor. -/
  | showCursor
  /-- Blank the whole screen. -/
  | clear
  /-- Move the cursor. -/
  | moveTo (column row : Nat)
  /-- Write characters from the cursor on. -/
  | print (text : String)
  /-- Write further characters in a colour. -/
  | foreground (colour : Colour)
  /-- Write further characters in the default colours. -/
  | resetColour
  /-- Ring the bell. -/
  | bell
deriving DecidableEq, Repr

namespace Action

/-- The codes that tell a terminal to do something. -/
def code : Action → String
  | enterAlternateScreen => "\x1b[?1049h"
  | leaveAlternateScreen => "\x1b[?1049l"
  | hideCursor => "\x1b[?25l"
  | showCursor => "\x1b[?25h"
  | clear => "\x1b[2J"
  | moveTo column row =>
    "\x1b[" ++ Text.decimal (row + 1) ++ ";" ++ Text.decimal (column + 1) ++ "H"
  | print text => text
  | foreground colour => "\x1b[38;5;" ++ Text.decimal colour.code ++ "m"
  | resetColour => "\x1b[0m"
  | bell => "\x07"

/-- The codes of several actions one after the other. -/
def codes (actions : List Action) : String :=
  String.join (actions.map code)

end Action

end Chip8.Terminal
