import Chip8.Snapshot

/-!
# Reading snapshots back

`Snapshot.ofCharacters?` reads a snapshot line. A field is a label and a number of any number of
digits that ends where a space follows or the line does, so the widths of the numbers need not be
known.
-/

namespace Chip8

namespace Text

/-- The value of a digit, upper-case letters counting from ten. -/
def digitValue? (c : Char) : Option Nat :=
  if c.isDigit then some (c.toNat - '0'.toNat)
  else if 'A' ≤ c ∧ c ≤ 'F' then some (c.toNat - 'A'.toNat + 10)
  else none

/-- The number that digits stand for in some base, the most significant first; at least one is
needed. -/
def numberOf? (base : Nat) (digits : List Char) : Option Nat :=
  if digits.isEmpty then none
  else digits.foldlM (fun n c => (digitValue? c).map fun d => base * n + d) 0

/-- What follows a label, if a text begins with it. -/
def afterLabel? (label text : List Char) : Option (List Char) :=
  if label.isPrefixOf text then some (text.drop label.length) else none

/-- Reads a field: the number after a label, and what follows it. -/
def readField? (label : String) (base : Nat) (text : List Char) : Option (Nat × List Char) := do
  let text ← afterLabel? label.toList text
  let n ← numberOf? base (text.takeWhile (· != ' '))
  return (n, text.dropWhile (· != ' '))

end Text

namespace Snapshot

/-- Reads the fields of `count` registers, the first of them of number `n`, and what follows them.
-/
def readRegisters? (n : Nat) (text : List Char) : Nat → Option (List UInt8 × List Char)
  | 0 => some ([], text)
  | count + 1 => do
    let (b, text) ← Text.readField? (" v" ++ Text.hex 1 n ++ "=") 16 text
    let (rest, text) ← readRegisters? (n + 1) text count
    return (UInt8.ofNat b :: rest, text)

/-- Reads a snapshot line. -/
def ofCharacters? (text : List Char) : Option Snapshot := do
  let (opcode, text) ← Text.readField? "opcode=" 16 text
  let (pc, text) ← Text.readField? " pc=" 16 text
  let (sp, text) ← Text.readField? " sp=" 10 text
  let (i, text) ← Text.readField? " i=" 16 text
  let (v, text) ← readRegisters? 0 text 16
  if h : v.length = 16 ∧ text = [] then
    return {
      opcode := UInt16.ofNat opcode
      pc := UInt16.ofNat pc
      sp := UInt8.ofNat sp
      i := UInt16.ofNat i
      v := ⟨v.toArray, by simpa using h.1⟩ }
  else none

end Snapshot

end Chip8
