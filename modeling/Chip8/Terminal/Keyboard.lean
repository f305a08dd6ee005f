import Chip8.Keypad

/-!
# The terminal's keyboard

A terminal reports the keys that are pressed but not when they are released, so a key of the keypad
counts as held for some time after each press: a `KeyBuffer` remembers when each was last pressed,
and queues the keys that are commands to the frontend (`Command`) until they are asked for. A
`Keyboard` is a buffer looked at at some time, and the key source of a terminal. Times are in
milliseconds.

The left side of the keyboard, four rows of four keys from `1234` down to `zxcv`, stands for the
keypad.
-/

namespace Chip8.Terminal

/-! ### Keys -/

/-- A key as the terminal reports it. -/
inductive KeyCode where
  /-- A key that types a character. -/
  | char (c : Char)
  | escape
  | enter
  | tab
  | backTab
  | backspace
  | up
  | down
  | left
  | right
  | home
  | lineEnd
  | pageUp
  | pageDown
  | insert
  | delete
  | null
  /-- One of the numbered function keys. -/
  | function (n : Nat)
deriving DecidableEq, Repr

/-- Something that the frontend can be asked for. -/
inductive Command where
  /-- End the session. -/
  | quit
  /-- Pause or resume. -/
  | togglePause
  /-- Execute a single instruction while paused. -/
  | step
  /-- Start the program over. -/
  | reset
deriving DecidableEq, Repr

/-- The name of a command for diagnostics. -/
def Command.describe : Command → String
  | quit => "Quit"
  | togglePause => "TogglePause"
  | step => "Step"
  | reset => "Reset"

namespace KeyCode

/-- The command that a key stands for. -/
def command? : KeyCode → Option Command
  | escape => some .quit
  | char 'p' => some .togglePause
  | char 'n' => some .step
  | char 'i' => some .reset
  | _ => none

/-- The key of the keypad that a character stands for, whatever its case. -/
def keyOfChar? (c : Char) : Option UInt8 :=
  match c.toLower with
  | '1' => some 0x1
  | '2' => some 0x2
  | '3' => some 0x3
  | '4' => some 0xC
  | 'q' => some 0x4
  | 'w' => some 0x5
  | 'e' => some 0x6
  | 'r' => some 0xD
  | 'a' => some 0x7
  | 's' => some 0x8
  | 'd' => some 0x9
  | 'f' => some 0xE
  | 'z' => some 0xA
  | 'x' => some 0x0
  | 'c' => some 0xB
  | 'v' => some 0xF
  | _ => none

/-- The key of the keypad that a key stands for. -/
def key? : KeyCode → Option UInt8
  | char c => keyOfChar? c
  | _ => none

end KeyCode

/-! ### The buffer -/

/-- How long a key counts as held after the terminal reported it. It has to be longer than it takes
a terminal to report a key again that is kept down. -/
def holdTimeout : Nat := 300

/-- The presses and commands that have arrived. -/
structure KeyBuffer where
  /-- How long a press counts as held. -/
  timeout : Nat
  /-- When each key of the keypad was last pressed. -/
  lastPressed : Vector (Option Nat) 16
  /-- The commands that have not been asked for yet, oldest first. -/
  commands : List Command
deriving DecidableEq

namespace KeyBuffer

/-- A buffer that nothing has arrived at. -/
def empty (timeout : Nat) : KeyBuffer :=
  ⟨timeout, Vector.replicate 16 none, []⟩

/-- Records the press of a key at some time, if there is such a key. -/
def press (b : KeyBuffer) (key : UInt8) (time : Nat) : KeyBuffer :=
  if h : key.toNat < 16 then
    { b with lastPressed := b.lastPressed.set key.toNat (some time) h }
  else b

/-- Appends a command to the queue. -/
def push (b : KeyBuffer) (command : Command) : KeyBuffer :=
  { b with commands := b.commands ++ [command] }

/-- The oldest command, and the buffer without it. -/
def pop (b : KeyBuffer) : Option Command × KeyBuffer :=
  (b.commands.head?, { b with commands := b.commands.tail })

/-- Takes in a key that was reported at some time: as a command if it is one, else as a press if it
stands for a key of the keypad. -/
def receive (b : KeyBuffer) (code : KeyCode) (time : Nat) : KeyBuffer :=
  match code.command? with
  | some command => b.push command
  | none =>
    match code.key? with
    | some key => b.press key time
    | none => b

/-- The keypad on which exactly the keys are down that count as held at some time. -/
def held (b : KeyBuffer) (time : Nat) : Keypad :=
  ⟨b.lastPressed.map fun pressed => pressed.any fun t => time - t < b.timeout⟩

end KeyBuffer

/-- A buffer, looked at at some time. -/
structure Keyboard where
  /-- The buffer. -/
  buffer : KeyBuffer
  /-- The time. -/
  time : Nat
deriving DecidableEq

namespace Keyboard

/-- A keyboard that no key has been pressed on. -/
def untouched (timeout : Nat) : Keyboard :=
  ⟨.empty timeout, 0⟩

instance : KeySource Keyboard where
  poll keyboard _ := (keyboard.buffer.held keyboard.time, keyboard)

/-- Takes in keys that are reported now. -/
def receive (k : Keyboard) (codes : List KeyCode) : Keyboard :=
  { k with buffer := codes.foldl (fun b code => b.receive code k.time) k.buffer }

end Keyboard

end Chip8.Terminal
