import CompilerHints.Decimal

/-!
# Numbers in JSON texts

A number keeps the digits that it was written with. When it is read as a double, as many digits are
taken as fit in 64 bits. The rest count by their number only, and a power of ten makes up for them;
digits and power are rounded before they are multiplied.

* `JsonNumber`: a number as it was written.
* `keepDigits`: the digits that are taken.
* `JsonNumber.isFinite`: whether what is read is a finite double.
-/

namespace CompilerHints

/-- A number as it was written. -/
structure JsonNumber extends Decimal where
  /-- Whether it was written without fraction and exponent. -/
  isIntegral : Bool := true
  /-- How many of its digits stand behind a point. -/
  fractionLength : Nat := 0
deriving DecidableEq, Repr

/-- What digits come to behind those that were taken before, as long as they fit in 64 bits, with
the number of them that do. -/
def keepDigits (taken : Nat) : List Char → Nat × Nat
  | [] => (taken, 0)
  | c :: rest =>
    let next := taken * 10 + digitsValue [c]
    if next < Nat.pow 2 64 then
      let (value, kept) := keepDigits next rest
      (value, kept + 1)
    else (taken, 0)

namespace JsonNumber

/-- The natural number that was written, without a sign, a fraction or an exponent. -/
def toNat? (n : JsonNumber) : Option Nat :=
  if n.isIntegral && !n.isNegative then some n.significand else none

/-- The digits in front of the point and behind it. -/
def digits (n : JsonNumber) : List Char × List Char :=
  let all := (Nat.toDigits 10 n.significand).leftpad (n.fractionLength + 1) '0'
  all.splitAt (all.length - n.fractionLength)

/-- Whether what is read is a finite double. A power of ten above 308 is too much for any digits but
zeros, and one below zero never is. -/
def isFinite (n : JsonNumber) : Bool :=
  let (whole, fraction) := n.digits
  let (front, wholeKept) := keepDigits 0 whole
  let (value, fractionKept) := keepDigits front fraction
  let power : Int :=
    n.exponent + n.fractionLength + (whole.length - wholeKept : Nat) - fractionKept
  value == 0 ||
    match power with
    | .ofNat e =>
      decide (e ≤ 308) &&
        decide (roundToDouble value * roundToDouble (Nat.pow 10 e) < Decimal.overflowBound)
    | .negSucc _ => true

end JsonNumber

end CompilerHints
