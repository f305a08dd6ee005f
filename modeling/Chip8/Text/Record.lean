import Chip8.Text.Numeral

/-!
# Records as text

The shape in which the values of this library are shown for diagnostics: a constructor applied to
positional arguments, `Name(1, 2)`; a record with named fields, `Name { a: 1, b: 2 }`; and a list,
`[1, 2]`. Parts are texts that have already been rendered.
-/

namespace Chip8.Text

/-- A list of parts in square brackets. -/
def listOf (items : List String) : String :=
  "[" ++ ", ".intercalate items ++ "]"

/-- A constructor applied to positional arguments. -/
def application (name : String) (arguments : List String) : String :=
  name ++ "(" ++ ", ".intercalate arguments ++ ")"

/-- A record with named fields. -/
def record (name : String) (fields : List (String × String)) : String :=
  name ++ " \x7b " ++ ", ".intercalate (fields.map fun f => f.1 ++ ": " ++ f.2) ++ " \x7d"

/-- A list of bytes, each in decimal. -/
def bytes (values : List UInt8) : String :=
  listOf (values.map fun b => decimal b.toNat)

/-- A truth value. -/
def truth (b : Bool) : String :=
  if b then "true" else "false"

end Chip8.Text
