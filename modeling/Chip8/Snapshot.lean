import Chip8.Text.Record

/-!
# Snapshots

A copy of the parts of the machine that a person following a program looks at: the opcode about to
be executed, the program counter, the stack depth, the address register and the registers `v0` to
`vF`. It is shown on one line, as named fields separated by spaces.
-/

namespace Chip8

/-- What the machine is about to do and with which values. -/
structure Snapshot where
  /-- The opcode at the program counter. -/
  opcode : UInt16
  /-- The program counter. -/
  pc : UInt16
  /-- How many calls are open. -/
  sp : UInt8
  /-- The address register. -/
  i : UInt16
  /-- The registers `v0` to `vF`. -/
  v : Vector UInt8 16
deriving DecidableEq

namespace Snapshot

/-- One of the registers of a snapshot line, by its number and value. -/
def registerField (n : Nat) (b : UInt8) : List Char :=
  " v".toList ++ Text.hexDigits 1 n ++ "=".toList ++ Text.hexDigits 2 b.toNat

/-- The snapshot line as characters: the opcode in at least four and addresses in at least three
hexadecimal digits, the depth in decimal, registers in two hexadecimal digits. -/
def characters (s : Snapshot) : List Char :=
  "opcode=".toList ++ Text.hexDigits 4 s.opcode.toNat
    ++ " pc=".toList ++ Text.hexDigits 3 s.pc.toNat
    ++ " sp=".toList ++ Text.decimalDigits s.sp.toNat
    ++ " i=".toList ++ Text.hexDigits 3 s.i.toNat
    ++ s.v.toList.zipIdx.flatMap fun (b, n) => registerField n b

/-- The snapshot line. -/
def text (s : Snapshot) : String :=
  String.ofList s.characters

/-- The snapshot for diagnostics. -/
def describe (s : Snapshot) : String :=
  Text.record "Snapshot"
    [("opcode", Text.decimal s.opcode.toNat), ("pc", Text.decimal s.pc.toNat),
      ("sp", Text.decimal s.sp.toNat), ("i", Text.decimal s.i.toNat), ("v", Text.bytes s.v.toList)]

end Snapshot

end Chip8
