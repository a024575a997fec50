import CompilerHints.Decimal
import CompilerHints.Toml.Basic

/-!
# TOML numbers, truth values and dates

Such a value is a word of letters, digits and a few signs; a date and a time may also have a space
between them. The word as a whole has to be of one of the forms.

* `Toml.ofWord?`: the value of a word.
* `Toml.readScalar?`: the value at the front, and what follows it.
-/

namespace CompilerHints

namespace Toml

/-- Whether characters are digits in groups with single underscores between them. -/
def isGrouped (isDigit : Char → Bool) : List Char → Bool
  | [] => false
  | [c] => isDigit c
  | c :: '_' :: rest => isDigit c && isGrouped isDigit rest
  | c :: rest => isDigit c && isGrouped isDigit rest

/-- Whether characters are a whole number in grouped digits without a superfluous zero in front. -/
def isWhole (cs : List Char) : Bool :=
  isGrouped Char.isDigit cs && (cs.head? != some '0' || cs.length == 1)

/-- Whether a character is a hexadecimal digit. -/
def isHexDigit (c : Char) : Bool :=
  c.isDigit || ('a' ≤ c && c ≤ 'f') || ('A' ≤ c && c ≤ 'F')

/-- Whether a character is an octal digit. -/
def isOctalDigit (c : Char) : Bool :=
  '0' ≤ c && c ≤ '7'

/-- Whether a character is a binary digit. -/
def isBinaryDigit (c : Char) : Bool :=
  c == '0' || c == '1'

/-- The value of a digit up to 15. -/
def digitValue (c : Char) : Nat :=
  if c.isDigit then c.toNat - '0'.toNat
  else if 'a' ≤ c && c ≤ 'f' then c.toNat - 'a'.toNat + 10
  else c.toNat - 'A'.toNat + 10

/-- The value of grouped digits in a base. -/
def groupedValue (base : Nat) (cs : List Char) : Nat :=
  (cs.filter (· ≠ '_')).foldl (fun n c => n * base + digitValue c) 0

/-- A word without its sign, and whether the sign is a minus. -/
def cutSign : List Char → Bool × List Char
  | '+' :: rest => (false, rest)
  | '-' :: rest => (true, rest)
  | cs => (false, cs)

/-- Integers of 64 bits are below this, and so are the magnitudes of negative ones, but for one. -/
def integerBound : Nat := Nat.pow 2 63

/-- Whether a word is an integer of 64 bits. -/
def isInteger (word : List Char) : Bool :=
  match word with
  | '0' :: 'x' :: rest => isGrouped isHexDigit rest && groupedValue 16 rest < integerBound
  | '0' :: 'o' :: rest => isGrouped isOctalDigit rest && groupedValue 8 rest < integerBound
  | '0' :: 'b' :: rest => isGrouped isBinaryDigit rest && groupedValue 2 rest < integerBound
  | _ =>
    let (isNegative, digits) := cutSign word
    isWhole digits &&
      (groupedValue 10 digits < integerBound || isNegative && groupedValue 10 digits = integerBound)

/-- Whether a word is a fractional number. It must not round to the positive infinity. -/
def isFractional (word : List Char) : Bool :=
  let (isNegative, cs) := cutSign word
  if cs = ['i', 'n', 'f'] || cs = ['n', 'a', 'n'] then true
  else
    let isExponentMark (c : Char) : Bool := c == 'e' || c == 'E'
    let mantissa := cs.takeWhile fun c => !isExponentMark c
    let whole := mantissa.takeWhile (· ≠ '.')
    let fraction? := (mantissa.dropWhile (· ≠ '.')).tail?
    let exponent? := (cs.dropWhile fun c => !isExponentMark c).tail?
    let (isSmall, exponent) := cutSign (exponent?.getD ['0'])
    let power : Int := groupedValue 10 exponent
    let fraction := fraction?.getD []
    let digits := (whole ++ fraction).filter (· ≠ '_')
    let value : Decimal :=
      { significand := digitsValue digits
        exponent := (if isSmall then -power else power) - (fraction.filter (· ≠ '_')).length }
    isWhole whole && (fraction?.isNone || isGrouped Char.isDigit fraction) &&
      isGrouped Char.isDigit exponent && (fraction?.isSome || exponent?.isSome) &&
      (isNegative || value.isFinite)

/-! ### Dates and times -/

/-- The value of two digits in a range. -/
def isTwoDigits (least greatest : Nat) (a b : Char) : Bool :=
  a.isDigit && b.isDigit && least ≤ digitsValue [a, b] && digitsValue [a, b] ≤ greatest

/-- The number of days of a month. -/
def daysInMonth (year month : Nat) : Nat :=
  if month == 2 then
    if year % 4 == 0 && (year % 100 != 0 || year % 400 == 0) then 29 else 28
  else if month == 4 || month == 6 || month == 9 || month == 11 then 30
  else 31

/-- Whether characters are a date. -/
def isDate : List Char → Bool
  | [a, b, c, d, '-', e, f, '-', g, h] =>
    [a, b, c, d].all Char.isDigit && isTwoDigits 1 12 e f &&
      isTwoDigits 1 (daysInMonth (digitsValue [a, b, c, d]) (digitsValue [e, f])) g h
  | _ => false

/-- Whether characters are nothing, or the distance from universal time. -/
def isOffset : List Char → Bool
  | [] => true
  | ['Z'] => true
  | ['z'] => true
  | [sign, a, b, ':', c, d] =>
    (sign == '+' || sign == '-') && isTwoDigits 0 23 a b && isTwoDigits 0 59 c d
  | _ => false

/-- Whether characters are a time, with what may follow it judged by `isEnd`. -/
def isTime (isEnd : List Char → Bool) : List Char → Bool
  | a :: b :: ':' :: c :: d :: ':' :: e :: f :: rest =>
    isTwoDigits 0 23 a b && isTwoDigits 0 59 c d && isTwoDigits 0 60 e f &&
      match rest with
      | '.' :: digits =>
        (digits.head?.any Char.isDigit) && isEnd (digits.dropWhile Char.isDigit)
      | rest => isEnd rest
  | _ => false

/-- Whether a word is a date, a time, or both with a letter between them. -/
def isDateTime (word : List Char) : Bool :=
  isDate word || isTime List.isEmpty word ||
    isDate (word.take 10) &&
      match word.drop 10 with
      | 'T' :: time => isTime isOffset time
      | 't' :: time => isTime isOffset time
      | _ => false

/-! ### Words -/

/-- The value of a word. -/
def ofWord? (word : List Char) : Option Toml :=
  if word = ['t', 'r', 'u', 'e'] || word = ['f', 'a', 'l', 's', 'e'] then some boolean
  else if isDateTime word then some dateTime
  else if isInteger word || isFractional word then some number
  else none

/-- Whether a character may occur in a word. -/
def isWordChar (c : Char) : Bool :=
  c.isAlphanum || c == '_' || c == '+' || c == '-' || c == '.' || c == ':'

/-- The value at the front, and what follows it. A date with a space and a digit behind it goes on
with a time. -/
def readScalar? (cs : List Char) : Option (Toml × List Char) :=
  let word := cs.takeWhile isWordChar
  let rest := cs.dropWhile isWordChar
  match isDate word, rest with
  | true, ' ' :: c :: more =>
    if c.isDigit then
      if isTime isOffset ((c :: more).takeWhile isWordChar) then
        some (dateTime, (c :: more).dropWhile isWordChar)
      else none
    else some (dateTime, rest)
  | _, _ => (ofWord? word).map fun value => (value, rest)

end Toml

end CompilerHints
