/-!
# Decimal numbers

A number as it is written in a document: a sign, a significand and a power of ten.

* `Decimal.isFinite`: whether the number rounds to a finite double.
* `digitsValue`: the value of decimal digits.
* `roundToDouble`: a natural number as the nearest double.
-/

namespace CompilerHints

/-- The value of decimal digits. -/
def digitsValue (digits : List Char) : Nat :=
  digits.foldl (fun n c => n * 10 + (c.toNat - '0'.toNat)) 0

/-- A sign, a significand and a power of ten. -/
structure Decimal where
  isNegative : Bool := false
  significand : Nat
  exponent : Int := 0
deriving DecidableEq, Repr

/-- The nearest natural number of 53 significant bits, and where two are as near the one with an
even last bit: the double for a natural number, if there is a finite one. -/
def roundToDouble (n : Nat) : Nat :=
  let place := Nat.pow 2 (n.log2 - 52)
  let floor := n / place
  let rest := n % place
  if 2 * rest < place || 2 * rest == place && floor % 2 == 0 then floor * place
  else (floor + 1) * place

namespace Decimal

/-- From here on a magnitude rounds to no finite double: half a unit above the greatest one. -/
def overflowBound : Nat := Nat.pow 2 1024 - Nat.pow 2 970

/-- Whether the number rounds to a finite double. A power of ten above 308 is too much for any
significand but zero, and one below the number of digits leaves nothing to compare. -/
def isFinite (d : Decimal) : Bool :=
  d.significand == 0 ||
    match d.exponent with
    | .ofNat e => decide (e ≤ 308) && decide (d.significand * Nat.pow 10 e < overflowBound)
    | .negSucc e =>
      decide (d.significand < overflowBound * Nat.pow 10 (min (e + 1) (d.significand.log2 + 1)))

/-- A natural number is finite exactly below the bound. -/
theorem isFinite_ofNat (n : Nat) : ({ significand := n } : Decimal).isFinite =
    decide (n < overflowBound) := by
  by_cases h : n = 0
  · subst h
    decide +kernel
  · simp [isFinite, h]

end Decimal

end CompilerHints
