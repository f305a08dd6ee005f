import Chip8.Text.Quoted
import Chip8.Text.Record

/-!
# What can go wrong

A `Fault` stops an instruction and a `LoadError` refuses a program; an `Error` is either. Each has a
`message` for people, in which opcodes and addresses are hexadecimal, and a `describe` for
diagnostics, in which they are decimal. None is handled inside the machine: whether to halt, reset
or carry on is the caller's decision.
-/

namespace Chip8

/-! ### Reading a file -/

/-- Why a file could not be read. -/
inductive ReadError where
  /-- The operating system refused, with the number and the kind of its error. -/
  | refused (code : Nat) (kind text : String)
  /-- The name itself is impossible. -/
  | badName
  /-- Some other reason, in words. -/
  | other (text : String)
deriving DecidableEq, Repr

namespace ReadError

/-- A file or a directory on the way to it does not exist. -/
def notFound : ReadError := refused 2 "NotFound" "No such file or directory"

/-- Something on the way to the file is not a directory. -/
def notADirectory : ReadError := refused 20 "NotADirectory" "Not a directory"

/-- The name belongs to a directory. -/
def isADirectory : ReadError := refused 21 "IsADirectory" "Is a directory"

/-- The name is longer than any file's can be. -/
def nameTooLong : ReadError := refused 36 "InvalidFilename" "File name too long"

/-- The complaint about a name that holds the character of code 0. -/
def badNameText : String := "file name contained an unexpected NUL byte"

/-- The reason in words. -/
def message : ReadError → String
  | refused code _ text => text ++ " (os error " ++ Text.decimal code ++ ")"
  | badName => badNameText
  | other text => text

/-- The reason for diagnostics. -/
def describe : ReadError → String
  | refused code kind text =>
    Text.record "Os" [("code", Text.decimal code), ("kind", kind), ("message", Text.quoted text)]
  | badName =>
    Text.record "Error" [("kind", "InvalidInput"), ("message", Text.quoted badNameText)]
  | other text => Text.record "Custom" [("kind", "Other"), ("error", Text.quoted text)]

end ReadError

/-! ### Loading a program -/

/-- Why a program was not loaded. -/
inductive LoadError where
  /-- Its file could not be read. -/
  | unreadable (path : String) (reason : ReadError)
  /-- It has more bytes than there is room for. -/
  | tooLarge (size limit : Nat)
deriving DecidableEq, Repr

namespace LoadError

/-- The error in words. -/
def message : LoadError → String
  | unreadable path reason => "could not read ROM " ++ Text.quoted path ++ ": " ++ reason.message
  | tooLarge size limit =>
    "ROM is " ++ Text.decimal size ++ " bytes, but at most " ++ Text.decimal limit
      ++ " bytes fit in memory"

/-- The error for diagnostics. -/
def describe : LoadError → String
  | unreadable path reason =>
    Text.record "RomLoad" [("path", Text.quoted path), ("source", reason.describe)]
  | tooLarge size limit =>
    Text.record "RomTooLarge" [("size", Text.decimal size), ("max", Text.decimal limit)]

/-- The words of the error that caused this one. -/
def source? : LoadError → Option String
  | unreadable _ reason => some reason.message
  | tooLarge .. => none

end LoadError

/-! ### Executing an instruction -/

/-- Why an instruction was not executed. The address is that of the instruction. -/
inductive Fault where
  /-- The opcode stands for no instruction. -/
  | unknownOpcode (opcode pc : UInt16)
  /-- A call was made with all 16 stack slots in use. -/
  | stackOverflow (pc : UInt16)
  /-- A return was made with no call open. -/
  | stackUnderflow (pc : UInt16)
  /-- A sprite was taller than any opcode can ask for. -/
  | spriteTooTall (height : UInt8)
deriving DecidableEq, Repr

namespace Fault

/-- The fault in words. -/
def message : Fault → String
  | unknownOpcode opcode pc =>
    "unknown opcode 0x" ++ Text.hex 4 opcode.toNat ++ " at 0x" ++ Text.hex 3 pc.toNat
  | stackOverflow pc => "stack overflow when calling from 0x" ++ Text.hex 3 pc.toNat
  | stackUnderflow pc => "stack underflow when returning from 0x" ++ Text.hex 3 pc.toNat
  | spriteTooTall height =>
    "sprite of " ++ Text.decimal height.toNat ++ " rows is taller than 15 rows"

/-- The fault for diagnostics. -/
def describe : Fault → String
  | unknownOpcode opcode pc =>
    Text.record "UnknownOpcode"
      [("opcode", Text.decimal opcode.toNat), ("pc", Text.decimal pc.toNat)]
  | stackOverflow pc => Text.record "StackOverflow" [("pc", Text.decimal pc.toNat)]
  | stackUnderflow pc => Text.record "StackUnderflow" [("pc", Text.decimal pc.toNat)]
  | spriteTooTall height => Text.record "SpriteTooTall" [("height", Text.decimal height.toNat)]

end Fault

/-! ### Either -/

/-- Anything that can go wrong while loading or running a program. -/
inductive Error where
  /-- A program was refused. -/
  | load (error : LoadError)
  /-- An instruction was stopped. -/
  | fault (fault : Fault)
deriving DecidableEq, Repr

namespace Error

/-- The error in words. -/
def message : Error → String
  | load e => e.message
  | fault f => f.message

/-- The error for diagnostics. -/
def describe : Error → String
  | load e => e.describe
  | fault f => f.describe

/-- The words of the error that caused this one. -/
def source? : Error → Option String
  | load e => e.source?
  | fault _ => none

end Error

end Chip8
