import CompilerHints.Json.Basic

/-!
# Printing JSON values

* `Json.pretty`: a value over several lines, each level two spaces further in. Empty arrays and
  objects take no line of their own.
-/

namespace CompilerHints

namespace Json

/-- A character inside a string: quotes, backslashes and control characters are escaped. -/
def escapeChar (c : Char) : List Char :=
  if c == '"' then ['\\', '"']
  else if c == '\\' then ['\\', '\\']
  else if c == '\x08' then ['\\', 'b']
  else if c == '\x0c' then ['\\', 'f']
  else if c == '\n' then ['\\', 'n']
  else if c == '\r' then ['\\', 'r']
  else if c == '\t' then ['\\', 't']
  else if c.toNat < 0x20 then
    ['\\', 'u', '0', '0', Nat.digitChar (c.toNat / 16), Nat.digitChar (c.toNat % 16)]
  else [c]

/-- A text between quotes. -/
def quote (text : String) : String :=
  String.ofList (['"'] ++ text.toList.flatMap escapeChar ++ ['"'])

/-- A number by its significand and its power of ten. -/
def printNumber (n : JsonNumber) : String :=
  (if n.isNegative then "-" else "") ++ toString n.significand ++
    if n.isIntegral then "" else "e" ++ toString n.exponent

/-- The beginning of a line at a level. -/
def indent (level : Nat) : String :=
  "\n" ++ String.ofList (List.replicate (2 * level) ' ')

mutual

/-- A value whose own lines begin at a level. -/
def prettyAt (level : Nat) : Json → String
  | null => "null"
  | bool value => if value then "true" else "false"
  | number value => printNumber value
  | string text => quote text
  | brokenString => quote "\uFFFD"
  | array [] => "[]"
  | array (item :: rest) =>
    "[" ++ indent (level + 1) ++ item.prettyAt (level + 1) ++ prettyItems (level + 1) rest ++
      indent level ++ "]"
  | object [] => "\x7b\x7d"
  | object ((key?, value) :: rest) =>
    "\x7b" ++ indent (level + 1) ++ quote (key?.getD "\uFFFD") ++ ": " ++
      value.prettyAt (level + 1) ++ prettyMembers (level + 1) rest ++ indent level ++ "\x7d"

/-- Further items of an array. -/
def prettyItems (level : Nat) : List Json → String
  | [] => ""
  | item :: rest => "," ++ indent level ++ item.prettyAt level ++ prettyItems level rest

/-- Further members of an object. -/
def prettyMembers (level : Nat) : List (Option String × Json) → String
  | [] => ""
  | (key?, value) :: rest =>
    "," ++ indent level ++ quote (key?.getD "\uFFFD") ++ ": " ++ value.prettyAt level ++
      prettyMembers level rest

end

/-- A value over several lines. -/
def pretty (value : Json) : String :=
  value.prettyAt 0

end Json

end CompilerHints
