import Chip8.Text.Numeral
import Chip8.Text.Printable

/-!
# Quoted text

A text between double quotes, written so that every character of it can be seen: the quote and the
backslash are preceded by a backslash, the common control characters have a letter, and any other
unprintable character is written by its code point, as in `\u{1b}`. The apostrophe stands for
itself.
-/

namespace Chip8.Text

/-- The written form of one character of a quoted text. -/
def escape (c : Char) : String :=
  match c with
  | '\x00' => "\\0"
  | '\t' => "\\t"
  | '\r' => "\\r"
  | '\n' => "\\n"
  | '"' => "\\\""
  | '\\' => "\\\\"
  | c => if isPrintable c then c.toString else "\\u\x7b" ++ lowerHex c.toNat ++ "\x7d"

/-- `s` between double quotes, each of its characters escaped as needed. -/
def quoted (s : String) : String :=
  "\"" ++ String.join (s.toList.map escape) ++ "\""

end Chip8.Text
