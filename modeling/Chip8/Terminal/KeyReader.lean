import Chip8.Terminal.Keyboard

/-!
# Keys in a stream of characters

A terminal reports most keys as the character that they type, and the others as a sequence that
begins with the escape character. A `KeyReader` takes the characters one at a time and remembers the
part of a sequence that has arrived; a sequence that stands for no key is dropped at the character
that shows it. The escape key is a lone escape character, which only the end of what has arrived can
tell from the start of a sequence (`flush`). An escape character before a character that starts no
sequence says that the alt key is held, and the character then stands for itself, control characters
included.
-/

namespace Chip8.Terminal

/-- The part of an escape sequence that has arrived. -/
inductive KeyReader where
  /-- Nothing. -/
  | idle
  /-- The escape character. -/
  | escape
  /-- The escape character and `O`. -/
  | function
  /-- The escape character and `[`. -/
  | bracket
  /-- The escape character and `[[`. -/
  | doubleBracket
  /-- The escape character, `[`, and parameters that start with a digit. -/
  | parameters (seen : List Char)
  /-- A mouse report of which some number of bytes is missing. -/
  | mouse (missing : Nat)
  /-- A mouse report that ends with `m` or `M`. -/
  | mouseReport
deriving DecidableEq, Repr

namespace KeyReader

/-- The key of a character outside of a sequence. Control characters are letters and digits typed
with the control key. -/
def plain (c : Char) : KeyCode :=
  if c = '\r' ∨ c = '\n' then .enter
  else if c = '\t' then .tab
  else if c = '\x7f' then .backspace
  else if 0x01 ≤ c.toNat ∧ c.toNat ≤ 0x1A then .char (Char.ofNat (c.toNat - 0x01 + 'a'.toNat))
  else if 0x1C ≤ c.toNat ∧ c.toNat ≤ 0x1F then .char (Char.ofNat (c.toNat - 0x1C + '4'.toNat))
  else .char c

/-- The key of a sequence that is a bracket and one letter. -/
def letterKey? : Char → Option KeyCode
  | 'A' => some .up
  | 'B' => some .down
  | 'C' => some .right
  | 'D' => some .left
  | 'H' => some .home
  | 'F' => some .lineEnd
  | 'Z' => some .backTab
  | _ => none

/-- The key of a sequence that is a bracket, a number and a tilde. -/
def numberKey? (n : Nat) : Option KeyCode :=
  if n = 1 ∨ n = 7 then some .home
  else if n = 2 then some .insert
  else if n = 3 then some .delete
  else if n = 4 ∨ n = 8 then some .lineEnd
  else if n = 5 then some .pageUp
  else if n = 6 then some .pageDown
  else if 11 ≤ n ∧ n ≤ 15 then some (.function (n - 10))
  else if 17 ≤ n ∧ n ≤ 21 then some (.function (n - 11))
  else if 23 ≤ n ∧ n ≤ 26 then some (.function (n - 12))
  else if 28 ≤ n ∧ n ≤ 29 then some (.function (n - 15))
  else if 31 ≤ n ∧ n ≤ 34 then some (.function (n - 17))
  else none

/-- The function key of a letter that counts from the letter of the first one, if it is at most the
`count`-th. -/
def functionKey? (first : Char) (count : Nat) (c : Char) : Option KeyCode :=
  if first ≤ c ∧ c.toNat < first.toNat + count then some (.function (c.toNat - first.toNat + 1))
  else none

/-- The key of a sequence with parameters, given its last character. A letter other than those of
the cursor and function keys ends a report that is no key. -/
def parameterKey? (seen : List Char) (c : Char) : Option KeyCode :=
  if c = '~' then
    ((String.ofList (seen.takeWhile (· ≠ ';'))).toNat?).bind numberKey?
  else (letterKey? c).or (functionKey? 'P' 4 c)

/-- Takes one character: what has arrived of a sequence then, and the key that is complete. -/
def feed (reader : KeyReader) (c : Char) : KeyReader × Option KeyCode :=
  match reader with
  | idle => if c = '\x1b' then (escape, none) else (idle, some (plain c))
  | escape =>
    if c = '\x1b' then (idle, some .escape)
    else if c = 'O' then (function, none)
    else if c = '[' then (bracket, none)
    else (idle, some (.char c))
  | function => (idle, functionKey? 'P' 4 c)
  | bracket =>
    if c = '[' then (doubleBracket, none)
    else if c = 'M' then (mouse 3, none)
    else if c = '<' then (mouseReport, none)
    else if c.isDigit then (parameters [c], none)
    else (idle, letterKey? c)
  | doubleBracket => (idle, functionKey? 'A' 5 c)
  | parameters seen =>
    if 64 ≤ c.toNat ∧ c.toNat ≤ 126 then (idle, parameterKey? seen c)
    else (parameters (seen ++ [c]), none)
  | mouse missing =>
    (if missing ≤ c.utf8Size then idle else mouse (missing - c.utf8Size), none)
  | mouseReport => (if c = 'm' ∨ c = 'M' then idle else mouseReport, none)

/-- The end of what has arrived: a lone escape character is the escape key, and any other unfinished
sequence waits for the rest. -/
def flush : KeyReader → KeyReader × List KeyCode
  | escape => (idle, [.escape])
  | reader => (reader, [])

/-- Takes all that has arrived: the reader afterwards and the keys that are complete, in order. -/
def read (reader : KeyReader) : List Char → KeyReader × List KeyCode
  | [] => reader.flush
  | c :: rest =>
    let (reader, key?) := reader.feed c
    let (reader, keys) := reader.read rest
    (reader, key?.toList ++ keys)

end KeyReader

end Chip8.Terminal
