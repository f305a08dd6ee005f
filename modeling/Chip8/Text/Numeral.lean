/-!
# Numerals

Numbers as messages and dumps show them: decimal without padding, and hexadecimal with upper-case
digits, padded on the left with zeros to a least width. A number that needs more digits than the
width gets them: `hex 3 0x1000` is `1000`.
-/

namespace Chip8.Text

/-- The decimal digits of `n`, most significant first, without leading zeros. -/
def decimalDigits (n : Nat) : List Char :=
  Nat.toDigits 10 n

/-- The upper-case hexadecimal digits of `n`, most significant first, at least `width` of them. -/
def hexDigits (width n : Nat) : List Char :=
  ((Nat.toDigits 16 n).map Char.toUpper).leftpad width '0'

/-- `n` in decimal. -/
def decimal (n : Nat) : String :=
  String.ofList (decimalDigits n)

/-- `n` in upper-case hexadecimal with at least `width` digits. -/
def hex (width n : Nat) : String :=
  String.ofList (hexDigits width n)

/-- `n` in lower-case hexadecimal, unpadded. -/
def lowerHex (n : Nat) : String :=
  String.ofList (Nat.toDigits 16 n)

end Chip8.Text
