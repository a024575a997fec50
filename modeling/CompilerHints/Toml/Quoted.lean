import CompilerHints.Toml.Scalar

/-!
# TOML strings

Strings between double quotes have escapes, those between single quotes have none; with three quotes
either kind goes over several lines.

* `Toml.readString?`: the string at the front, and what follows it.
* `Toml.readLineString?`: the same, for a string that may not go over several lines.
-/

namespace CompilerHints

namespace Toml

/-- Whether a character may stand in a document outside of line ends: no control but the tab. -/
def isPlain (c : Char) : Bool :=
  c == '\t' || 0x20 ≤ c.toNat && c.toNat ≠ 0x7F

/-- The character of a code point, unless it is a surrogate or too large. -/
def charOfCode? (n : Nat) : Option Char :=
  if h : n.isValidChar then some (Char.ofNatAux n h) else none

/-- The character that hexadecimal digits stand for. -/
def charOfHex? (digits : List Char) : Option Char :=
  if digits.all isHexDigit then charOfCode? (groupedValue 16 digits) else none

/-- The character that a letter behind a backslash stands for. -/
def escaped? : Char → Option Char
  | 'b' => some '\x08'
  | 't' => some '\t'
  | 'n' => some '\n'
  | 'f' => some '\x0c'
  | 'r' => some '\r'
  | '"' => some '"'
  | '\\' => some '\\'
  | _ => none

/-- A character in front of what was read. -/
def withFront (c? : Option Char) (read? : Option (List Char × List Char)) :
    Option (List Char × List Char) :=
  match c?, read? with
  | some c, some (cs, rest) => some (c :: cs, rest)
  | _, _ => none

/-- The characters up to a closing double quote, and what follows it. -/
def readBasic? : List Char → Option (List Char × List Char)
  | [] => none
  | '"' :: rest => some ([], rest)
  | '\\' :: 'u' :: a :: b :: c :: d :: rest =>
    withFront (charOfHex? [a, b, c, d]) (readBasic? rest)
  | '\\' :: 'U' :: a :: b :: c :: d :: e :: f :: g :: h :: rest =>
    withFront (charOfHex? [a, b, c, d, e, f, g, h]) (readBasic? rest)
  | '\\' :: e :: rest => withFront (escaped? e) (readBasic? rest)
  | c :: rest => if isPlain c && c ≠ '\\' then withFront (some c) (readBasic? rest) else none

/-- The characters up to a closing single quote, and what follows it. -/
def readLiteral? : List Char → Option (List Char × List Char)
  | [] => none
  | '\'' :: rest => some ([], rest)
  | c :: rest => if isPlain c then withFront (some c) (readLiteral? rest) else none

/-- The quotes directly behind three closing ones, at most two, still belong to the string. -/
def closing (quote : Char) : List Char → List Char × List Char
  | a :: b :: rest =>
    if a = quote && b = quote then ([quote, quote], rest)
    else if a = quote then ([quote], b :: rest)
    else ([], a :: b :: rest)
  | [a] => if a = quote then ([quote], []) else ([], [a])
  | [] => ([], [])

/-- Whether blanks and a line end are at the front. -/
def isLineOver (cs : List Char) : Bool :=
  match cs.dropWhile fun c => c == ' ' || c == '\t' with
  | '\n' :: _ => true
  | '\r' :: '\n' :: _ => true
  | _ => false

/-- The characters up to three closing double quotes, and what follows them. While `skips` holds,
blanks and line ends are left out, as they are behind a backslash at the end of a line. -/
def readBasicLines? (skips : Bool) : List Char → Option (List Char × List Char)
  | [] => none
  | '"' :: '"' :: '"' :: rest => some (closing '"' rest)
  | '\r' :: '\n' :: rest =>
    if skips then readBasicLines? true rest else withFront (some '\n') (readBasicLines? false rest)
  | '\n' :: rest =>
    if skips then readBasicLines? true rest else withFront (some '\n') (readBasicLines? false rest)
  | '\\' :: 'u' :: a :: b :: c :: d :: rest =>
    withFront (charOfHex? [a, b, c, d]) (readBasicLines? false rest)
  | '\\' :: 'U' :: a :: b :: c :: d :: e :: f :: g :: h :: rest =>
    withFront (charOfHex? [a, b, c, d, e, f, g, h]) (readBasicLines? false rest)
  | '\\' :: e :: rest =>
    if isLineOver (e :: rest) then readBasicLines? true rest
    else withFront (escaped? e) (readBasicLines? false rest)
  | c :: rest =>
    if skips && (c == ' ' || c == '\t') then readBasicLines? true rest
    else if isPlain c && c ≠ '\\' then withFront (some c) (readBasicLines? false rest)
    else none

/-- The characters up to three closing single quotes, and what follows them. -/
def readLiteralLines? : List Char → Option (List Char × List Char)
  | [] => none
  | '\'' :: '\'' :: '\'' :: rest => some (closing '\'' rest)
  | '\r' :: '\n' :: rest => withFront (some '\n') (readLiteralLines? rest)
  | '\n' :: rest => withFront (some '\n') (readLiteralLines? rest)
  | c :: rest => if isPlain c then withFront (some c) (readLiteralLines? rest) else none

/-- Characters without the line end directly at the front. -/
def skipLineEnd : List Char → List Char
  | '\n' :: rest => rest
  | '\r' :: '\n' :: rest => rest
  | cs => cs

/-- The string at the front, on one line. -/
def readLineString? : List Char → Option (String × List Char)
  | '"' :: rest => (readBasic? rest).map fun (cs, rest) => (String.ofList cs, rest)
  | '\'' :: rest => (readLiteral? rest).map fun (cs, rest) => (String.ofList cs, rest)
  | _ => none

/-- The string at the front. -/
def readString? : List Char → Option (String × List Char)
  | '"' :: '"' :: '"' :: rest =>
    (readBasicLines? false (skipLineEnd rest)).map fun (cs, rest) => (String.ofList cs, rest)
  | '\'' :: '\'' :: '\'' :: rest =>
    (readLiteralLines? (skipLineEnd rest)).map fun (cs, rest) => (String.ofList cs, rest)
  | cs => readLineString? cs

end Toml

end CompilerHints
