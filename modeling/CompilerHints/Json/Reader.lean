import CompilerHints.Json.Basic

/-!
# Reading JSON texts

The grammar of RFC 8259 without extensions: blanks are space, tab, line feed and carriage return,
and control characters in strings are escaped.

* `Json.readValue?`: the value at the front of a text, and what follows it.
* `Json.read?`: a text that is one value with nothing but blanks around it.
-/

namespace CompilerHints

namespace Json

/-- Whether a character is a blank between the tokens of JSON. -/
def isSpace (c : Char) : Bool :=
  c == ' ' || c == '\t' || c == '\n' || c == '\r'

/-- Characters without the blanks in front. -/
def skipSpaces (cs : List Char) : List Char :=
  cs.dropWhile isSpace

/-! ### Numbers -/

/-- The digits at the front, and what follows them. -/
def takeDigits (cs : List Char) : List Char × List Char :=
  (cs.takeWhile Char.isDigit, cs.dropWhile Char.isDigit)

/-- The digits before the point: a zero stands alone. -/
def readWhole? (cs : List Char) : Option (List Char × List Char) :=
  match takeDigits cs with
  | ([], _) => none
  | ('0' :: _ :: _, _) => none
  | found => some found

/-- The digits behind a point, if there is one. -/
def readFraction? : List Char → Option (List Char × List Char)
  | '.' :: rest =>
    match takeDigits rest with
    | ([], _) => none
    | found => some found
  | cs => some ([], cs)

/-- Digits with an optional sign. -/
def readSigned? (cs : List Char) : Option (Int × List Char) :=
  let (isNegative, cs) :=
    match cs with
    | '+' :: rest => (false, rest)
    | '-' :: rest => (true, rest)
    | cs => (false, cs)
  match takeDigits cs with
  | ([], _) => none
  | (digits, rest) =>
    some (if isNegative then -(digitsValue digits : Int) else digitsValue digits, rest)

/-- The exponent at the front, if there is one. -/
def readExponent? : List Char → Option (Option Int × List Char)
  | 'e' :: rest => (readSigned? rest).map fun (e, rest) => (some e, rest)
  | 'E' :: rest => (readSigned? rest).map fun (e, rest) => (some e, rest)
  | cs => some (none, cs)

/-- The number at the front, behind its sign. -/
def readMagnitude? (isNegative : Bool) (cs : List Char) : Option (Json × List Char) := do
  let (whole, cs) ← readWhole? cs
  let (fraction, cs) ← readFraction? cs
  let (exponent?, cs) ← readExponent? cs
  let value : JsonNumber :=
    { isNegative := isNegative
      significand := digitsValue (whole ++ fraction)
      exponent := exponent?.getD 0 - fraction.length
      isIntegral := fraction.isEmpty && exponent?.isNone
      fractionLength := fraction.length }
  some (.number value, cs)

/-! ### Strings -/

/-- A part of a string: a character, or a 16-bit unit that was written by its number. -/
inductive StringPart where
  | char (c : Char)
  | unit (n : Nat)
deriving DecidableEq, Repr

/-- The value of a hexadecimal digit. -/
def hexValue? (c : Char) : Option Nat :=
  if '0' ≤ c && c ≤ '9' then some (c.toNat - '0'.toNat)
  else if 'a' ≤ c && c ≤ 'f' then some (c.toNat - 'a'.toNat + 10)
  else if 'A' ≤ c && c ≤ 'F' then some (c.toNat - 'A'.toNat + 10)
  else none

/-- The value of four hexadecimal digits. -/
def hexUnit? (a b c d : Char) : Option Nat := do
  let high := (← hexValue? a) * 16 + (← hexValue? b)
  let low := (← hexValue? c) * 16 + (← hexValue? d)
  some (high * 256 + low)

/-- The character that a letter behind a backslash stands for. -/
def escaped? : Char → Option Char
  | '"' => some '"'
  | '\\' => some '\\'
  | '/' => some '/'
  | 'b' => some '\x08'
  | 'f' => some '\x0c'
  | 'n' => some '\n'
  | 'r' => some '\r'
  | 't' => some '\t'
  | _ => none

/-- The parts of a string up to the closing quote, and what follows it. -/
def readParts? : List Char → Option (List StringPart × List Char)
  | [] => none
  | '"' :: rest => some ([], rest)
  | '\\' :: 'u' :: a :: b :: c :: d :: rest =>
    match hexUnit? a b c d, readParts? rest with
    | some n, some (parts, rest) => some (.unit n :: parts, rest)
    | _, _ => none
  | '\\' :: e :: rest =>
    match escaped? e, readParts? rest with
    | some c, some (parts, rest) => some (.char c :: parts, rest)
    | _, _ => none
  | c :: rest =>
    if c == '\\' || c.toNat < 0x20 then none
    else (readParts? rest).map fun (parts, rest) => (.char c :: parts, rest)

/-- The characters of parts. A high unit and a low one right behind it are one character; alone
they are none. -/
def joinParts? : List StringPart → Option (List Char)
  | [] => some []
  | .char c :: rest => (joinParts? rest).map (c :: ·)
  | .unit high :: .unit low :: rest =>
    if 0xD800 ≤ high && high < 0xDC00 then
      if 0xDC00 ≤ low && low < 0xE000 then
        (joinParts? rest).map
          (Char.ofNat (0x10000 + (high - 0xD800) * 0x400 + (low - 0xDC00)) :: ·)
      else none
    else if 0xDC00 ≤ high && high < 0xE000 then none
    else (joinParts? (.unit low :: rest)).map (Char.ofNat high :: ·)
  | .unit n :: rest =>
    if 0xD800 ≤ n && n < 0xE000 then none else (joinParts? rest).map (Char.ofNat n :: ·)

/-- The string at the front, behind its opening quote: a text unless it is broken. -/
def readString? (cs : List Char) : Option (Option String × List Char) :=
  (readParts? cs).map fun (parts, rest) => ((joinParts? parts).map String.ofList, rest)

/-! ### Values -/

/-- A word of the language at the front. -/
def readWord? (word : List Char) (value : Json) (cs : List Char) : Option (Json × List Char) :=
  if word.isPrefixOf cs then some (value, cs.drop word.length) else none

mutual

/-- The value at the front, and what follows it. The fuel bounds the number of steps. -/
def readFueled? (fuel : Nat) (cs : List Char) : Option (Json × List Char) :=
  match fuel with
  | 0 => none
  | fuel + 1 =>
    match skipSpaces cs with
    | '"' :: rest =>
      (readString? rest).map fun (text?, rest) => (text?.elim brokenString string, rest)
    | '[' :: rest =>
      match skipSpaces rest with
      | ']' :: rest => some (array [], rest)
      | rest => (readItems? fuel rest).map fun (items, rest) => (array items, rest)
    | '{' :: rest =>
      match skipSpaces rest with
      | '}' :: rest => some (object [], rest)
      | rest => (readMembers? fuel rest).map fun (members, rest) => (object members, rest)
    | '-' :: rest => readMagnitude? true rest
    | 't' :: rest => readWord? ['r', 'u', 'e'] (bool true) rest
    | 'f' :: rest => readWord? ['a', 'l', 's', 'e'] (bool false) rest
    | 'n' :: rest => readWord? ['u', 'l', 'l'] null rest
    | rest => readMagnitude? false rest

/-- The items at the front up to the closing bracket. -/
def readItems? (fuel : Nat) (cs : List Char) : Option (List Json × List Char) :=
  match fuel with
  | 0 => none
  | fuel + 1 =>
    match readFueled? fuel cs with
    | none => none
    | some (item, rest) =>
      match skipSpaces rest with
      | ',' :: rest => (readItems? fuel rest).map fun (items, rest) => (item :: items, rest)
      | ']' :: rest => some ([item], rest)
      | _ => none

/-- The members at the front up to the closing brace. -/
def readMembers? (fuel : Nat) (cs : List Char) :
    Option (List (Option String × Json) × List Char) :=
  match fuel with
  | 0 => none
  | fuel + 1 =>
    match readMember? fuel cs with
    | none => none
    | some (member, rest) =>
      match skipSpaces rest with
      | ',' :: rest => (readMembers? fuel rest).map fun (members, rest) => (member :: members, rest)
      | '}' :: rest => some ([member], rest)
      | _ => none

/-- The member at the front: a key, a colon and a value. -/
def readMember? (fuel : Nat) (cs : List Char) : Option ((Option String × Json) × List Char) :=
  match fuel with
  | 0 => none
  | fuel + 1 =>
    match skipSpaces cs with
    | '"' :: rest =>
      match readString? rest with
      | none => none
      | some (key?, rest) =>
        match skipSpaces rest with
        | ':' :: rest => (readFueled? fuel rest).map fun (value, rest) => ((key?, value), rest)
        | _ => none
    | _ => none

end

/-- The value at the front of a text, and what follows it. Every step but three for each value
takes a character away. -/
def readValue? (cs : List Char) : Option (Json × List Char) :=
  readFueled? (3 * cs.length + 3) cs

/-- A text that is one value with nothing but blanks around it. -/
def read? (text : String) : Option Json :=
  match readValue? text.toList with
  | some (value, rest) => if (skipSpaces rest).isEmpty then some value else none
  | none => none

end Json

end CompilerHints
