/-!
# Fractions of an instruction

A frame executes `clock / rate` instructions, a quotient that need not be whole, and what is left
over is carried into the next frame. An `Allowance` counts the instructions that may still be
executed, in units of `2⁻⁸⁴`, and is kept to 53 significant bits: quotients and sums are rounded to
the nearest such number, a tie going to the even neighbour (`roundRatio`). The unit is fine enough
for every quotient of 32-bit numbers to be rounded right, because the smallest, `1 / (2³² - 1)`,
exceeds `2⁻³²` and so its last significant bit is worth at least `2⁻⁸⁴`.

A sum of less than `2⁵³` units is exact, and so is the difference when a whole instruction is
subtracted from less than `2⁵³` of them, whose last significant bit is worth no more than one. From
there on a difference would have to be rounded like a sum, which `Allowance.spend` does not do. A
frame adds less than `2³²` instructions, so it takes more than two million frames that an error
stops, one after the other, to owe as many.
-/

namespace Chip8

/-- The number of binary places of an allowance. -/
def allowancePlaces : Nat := 84

/-- The number of significant bits that are kept. -/
def significantBits : Nat := 53

/-- The quotient rounded to the nearest integer, a tie going to the even one. -/
def roundQuotient (a b : Nat) : Nat :=
  let q := a / b
  let r := a % b
  if 2 * r < b then q
  else if b < 2 * r then q + 1
  else q + q % 2

/-- The quotient rounded to an integer of at most 53 significant bits: to the nearest integer if it
is below `2⁵³`, and else to the nearest multiple of the power of two that leaves 53 bits. A tie goes
to the even neighbour. -/
def roundRatio (a b : Nat) : Nat :=
  let unit := 1 <<< ((a / b).log2 + 1 - significantBits)
  roundQuotient a (b * unit) * unit

/-- A number of instructions, possibly with a fraction. -/
structure Allowance where
  /-- The number in units of `2⁻⁸⁴`. -/
  units : Nat
deriving DecidableEq, Repr

namespace Allowance

/-- No instruction at all. -/
def zero : Allowance := ⟨0⟩

/-- One instruction. -/
def one : Allowance := ⟨1 <<< allowancePlaces⟩

/-- The instructions of one frame, if `clock` of them are executed in a second of `rate` frames. A
rate of zero counts as one. -/
def perFrame (clock rate : UInt32) : Allowance :=
  ⟨roundRatio (clock.toNat * one.units) (max rate.toNat 1)⟩

/-- The sum, rounded. -/
def add (a b : Allowance) : Allowance :=
  ⟨roundRatio (a.units + b.units) 1⟩

/-- The number of whole instructions. -/
def whole (a : Allowance) : Nat :=
  a.units / one.units

/-- What is left when one instruction has been executed, without rounding. -/
def spend (a : Allowance) : Allowance :=
  ⟨a.units - one.units⟩

/-- The number as the bits of a binary64 floating-point number: an exponent biased by 1023 above the
52 significant bits that follow the leading one, and zero for zero. -/
def binary64 (a : Allowance) : Nat :=
  if a.units = 0 then 0
  else
    let e := a.units.log2
    let significand := if e ≤ 52 then a.units <<< (52 - e) else a.units >>> (e - 52)
    ((e + 1023 - allowancePlaces) <<< 52) + (significand - (1 <<< 52))

end Allowance

end Chip8
