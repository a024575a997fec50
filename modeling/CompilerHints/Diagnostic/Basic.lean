/-!
# Diagnostics

What is reported about a directive without stopping the run.

* `Severity`, `Category`, `Code`: how bad it is, and the number under which it is documented.
* `Diagnostic`: the message, where it belongs, and further notes and help.
-/

namespace CompilerHints

/-- How bad a diagnostic is, from least to most. -/
inductive Severity where
  | note
  | warning
  | error
deriving DecidableEq, Repr

namespace Severity

/-- The rank of a severity. -/
def rank : Severity → Nat
  | note => 0
  | warning => 1
  | error => 2

/-- Severities are compared by rank. -/
instance : Ord Severity where
  compare a b := compare a.rank b.rank

/-- The word for a severity in a rendered diagnostic. -/
def word : Severity → String
  | note => "note"
  | warning => "warning"
  | error => "error"

/-- Whether a severity is the worst one. -/
def isError : Severity → Bool
  | error => true
  | _ => false

end Severity

/-- What kind of code a diagnostic has. It need not agree with the severity. -/
inductive Category where
  | error
  | warning
  | note
deriving DecidableEq, Repr

/-- The letter before the number of a code. -/
def Category.letter : Category → Char
  | error => 'E'
  | warning => 'W'
  | note => 'N'

/-- The number under which a diagnostic is documented. -/
structure Code where
  category : Category
  number : UInt16
deriving DecidableEq, Repr

/-- The letter and at least three digits. -/
def Code.label (code : Code) : String :=
  let digits := Nat.toDigits 10 code.number.toNat
  String.ofList (code.category.letter :: (List.replicate (3 - digits.length) '0' ++ digits))

/-- A report about a directive. -/
structure Diagnostic where
  severity : Severity
  code : Code
  message : String
  /-- The name of the element it is about. -/
  location : Option String := none
  notes : List String := []
  help : List String := []
deriving DecidableEq, Repr

end CompilerHints
