/-!
# Command lines

A grammar for command lines, given by the options that a program has. An option has a long name,
written after two dashes, and may have a letter, written after one; letters may be joined. A flag
stands alone, a counter is a flag that may be repeated, and any other option takes a value: the rest
of its argument, after an equals sign or, for a letter, directly, or else the argument that follows,
unless that one is read as options. An option that finds no value is given without one. A lone `--`
ends the options, and a lone `-` is no option. What remains are the operands.

`Arguments.ofList?` reads a command line, and refuses it as a whole if it breaks the grammar.
-/

namespace Chip8.CommandLine

/-- How an option is used. -/
inductive Usage where
  /-- Alone, at most once. -/
  | flag
  /-- Alone, any number of times. -/
  | counter
  /-- With a value if one is there, at most once. -/
  | value
deriving DecidableEq, Repr

/-- An option of a program. -/
structure OptionSpec where
  /-- The name after two dashes. -/
  long : String
  /-- The letter after one dash. -/
  letter : Option Char
  /-- How the option is used. -/
  usage : Usage
deriving DecidableEq, Repr

/-- A command line that has been read. -/
structure Arguments where
  /-- The options given, by their long names and in order, with the values of those that found
  one. -/
  options : List (String × Option String)
  /-- The operands, in order. -/
  operands : List String
deriving DecidableEq, Repr

namespace Arguments

/-- Nothing given. -/
def empty : Arguments := ⟨[], []⟩

/-- How often an option was given. -/
def count (a : Arguments) (long : String) : Nat :=
  a.options.countP fun o => o.1 == long

/-- Whether an option was given. -/
def has (a : Arguments) (long : String) : Bool :=
  a.options.any fun o => o.1 == long

/-- The value that an option was given, if it was given with one. -/
def value? (a : Arguments) (long : String) : Option String :=
  (a.options.find? fun o => o.1 == long).bind Prod.snd

/-- Adds an option. -/
def give (a : Arguments) (spec : OptionSpec) (value : Option String) : Arguments :=
  { a with options := a.options ++ [(spec.long, value)] }

/-- Adds an operand. -/
def operand (a : Arguments) (text : String) : Arguments :=
  { a with operands := a.operands ++ [text] }

/-! ### One argument -/

/-- Whether an argument is read as options rather than as an operand or a value. -/
def isOption (argument : List Char) : Bool :=
  argument.head? == some '-' && argument.length > 1

/-- What the arguments so far amount to: all that is complete, and the option that takes its value
from the next argument. -/
abbrev Reading := Arguments × Option OptionSpec

/-- Reads an option that takes a value, given what is attached to it. Equals signs before the value
are not part of it; with nothing attached, the value is still to come. -/
def readValue (a : Arguments) (spec : OptionSpec) (attached : Option (List Char)) : Reading :=
  match attached with
  | some text => (a.give spec (some (String.ofList (text.dropWhile (· == '=')))), none)
  | none => (a, some spec)

/-- Reads an option by its long name, given the argument without its dashes. A flag has no use for
an attached value. -/
def readLong? (specs : List OptionSpec) (a : Arguments) (text : List Char) : Option Reading :=
  let name := String.ofList (text.takeWhile (· != '='))
  let attached := if text.contains '=' then some ((text.dropWhile (· != '=')).drop 1) else none
  (specs.find? fun spec => spec.long == name).map fun spec =>
    match spec.usage with
    | .value => a.readValue spec attached
    | _ => (a.give spec none, none)

/-- Reads options by their letters, given the argument without its dashes. The first one that takes
a value takes the rest of the argument. -/
def readLetters? (specs : List OptionSpec) (a : Arguments) : List Char → Option Reading
  | [] => some (a, none)
  | c :: rest =>
    match specs.find? fun spec => spec.letter == some c with
    | none => none
    | some spec =>
      match spec.usage with
      | .value => some (a.readValue spec (if rest.isEmpty then none else some rest))
      | _ => readLetters? specs (a.give spec none) rest

/-- Reads an argument that is not an operand. -/
def readOption? (specs : List OptionSpec) (a : Arguments) (argument : List Char) :
    Option Reading :=
  let text := argument.dropWhile (· == '-')
  if argument.take 2 == ['-', '-'] then readLong? specs a text else readLetters? specs a text

/-! ### All arguments -/

/-- Gives up on a value that is still to come. -/
def settle : Reading → Arguments
  | (a, none) => a
  | (a, some spec) => a.give spec none

/-- Takes an argument that is not read as options: the value that is still to come, or else an
operand. -/
def takeText : Reading → String → Arguments
  | (a, none), text => a.operand text
  | (a, some spec), text => a.give spec (some text)

/-- Reads arguments one after the other. -/
def readAll? (specs : List OptionSpec) (reading : Reading) : List String → Option Arguments
  | [] => some (settle reading)
  | argument :: rest =>
    if argument = "--" then some (rest.foldl operand (settle reading))
    else if isOption argument.toList then
      match readOption? specs (settle reading) argument.toList with
      | none => none
      | some reading => readAll? specs reading rest
    else readAll? specs (takeText reading argument, none) rest

/-- Whether no option is given more often than it may be. -/
def isSparing (specs : List OptionSpec) (a : Arguments) : Bool :=
  specs.all fun spec => spec.usage == .counter || a.count spec.long ≤ 1

/-- Reads a command line. -/
def ofList? (specs : List OptionSpec) (arguments : List String) : Option Arguments :=
  (readAll? specs (empty, none) arguments).filter fun a => a.isSparing specs

end Arguments

/-! ### Values -/

/-- The number that decimal digits stand for, the most significant first; at least one is needed. -/
def numberOfDigits? (digits : List Char) : Option Nat :=
  if digits.isEmpty || !digits.all Char.isDigit then none
  else some (digits.foldl (fun n c => 10 * n + (c.toNat - '0'.toNat)) 0)

/-- The number that a text stands for, in decimal after an optional plus sign, if it is below the
bound. -/
def readNumber? (bound : Nat) (text : String) : Option Nat :=
  let digits :=
    match text.toList with
    | '+' :: rest => rest
    | all => all
  (numberOfDigits? digits).filter (· < bound)

/-- The number that an option gives, or a default if it is not given or given without a value. -/
def Arguments.number? (a : Arguments) (long : String) (bound default : Nat) : Option Nat :=
  match a.value? long with
  | some text => readNumber? bound text
  | none => some default

/-- The operand, if there is exactly one. -/
def Arguments.soleOperand? (a : Arguments) : Option String :=
  match a.operands with
  | [operand] => some operand
  | _ => none

end Chip8.CommandLine
