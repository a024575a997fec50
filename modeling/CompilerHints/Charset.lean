import CompilerHints.Text.Blank
import CompilerHints.Text.Quoted
import CompilerHints.Text.Utf16
import CompilerHints.Text.Utf8

/-!
# Charsets

The encodings an artifact can be written in.

* `Charset.name`, `Charset.ofName?`: the canonical name, and reading one of the usual names.
* `Charset.encodeChar?`: the bytes of one character, if the charset has it.
* `Charset.encode`: the bytes of a text, or the first character that the charset lacks.
-/

namespace CompilerHints

open Text

/-- An encoding of texts as bytes. -/
inductive Charset where
  | utf8
  | usAscii
  | latin1
  | utf16be
  | utf16le
deriving DecidableEq, Repr

/-- A character that a charset lacks. -/
structure Unencodable where
  charset : Charset
  character : Char
deriving DecidableEq, Repr

namespace Charset

/-- The canonical name. -/
def name : Charset → String
  | utf8 => "UTF-8"
  | usAscii => "US-ASCII"
  | latin1 => "ISO-8859-1"
  | utf16be => "UTF-16BE"
  | utf16le => "UTF-16LE"

/-- The names by which a charset is known, in lower case and with hyphens. -/
def aliases : List (String × Charset) :=
  [("utf-8", utf8), ("utf8", utf8), ("us-ascii", usAscii), ("ascii", usAscii),
   ("iso-8859-1", latin1), ("iso8859-1", latin1), ("latin1", latin1), ("latin-1", latin1),
   ("utf-16be", utf16be), ("utf-16le", utf16le)]

/-- A name as it is looked up: trimmed, ASCII letters in lower case, hyphens for underscores. -/
def normalizeName (name : String) : String :=
  String.ofList ((trim name).toList.map fun c => if c == '_' then '-' else c.toLower)

/-- The charset of a given name. -/
def ofName? (name : String) : Option Charset :=
  aliases.lookup (normalizeName name)

theorem ofName?_name (charset : Charset) : ofName? charset.name = some charset := by
  cases charset <;> decide +kernel

/-- The two bytes of a 16-bit unit, the high one first. -/
def bigEndian (unit : UInt16) : Bytes :=
  [(unit >>> 8).toUInt8, unit.toUInt8]

/-- The two bytes of a 16-bit unit, the low one first. -/
def littleEndian (unit : UInt16) : Bytes :=
  [unit.toUInt8, (unit >>> 8).toUInt8]

/-- The bytes of one character, if the charset has it. -/
def encodeChar? : Charset → Char → Option Bytes
  | utf8, c => some (String.utf8EncodeChar c)
  | usAscii, c => if c.toNat ≤ 0x7F then some [c.toNat.toUInt8] else none
  | latin1, c => if c.toNat ≤ 0xFF then some [c.toNat.toUInt8] else none
  | utf16be, c => some ((utf16Units c).flatMap bigEndian)
  | utf16le, c => some ((utf16Units c).flatMap littleEndian)

/-- The bytes of characters one after the other, or the first character that the charset lacks. -/
def encodeChars (charset : Charset) : List Char → Except Unencodable Bytes
  | [] => .ok []
  | c :: rest =>
    match charset.encodeChar? c with
    | none => .error ⟨charset, c⟩
    | some bytes =>
      match charset.encodeChars rest with
      | .ok more => .ok (bytes ++ more)
      | .error e => .error e

/-- The bytes of a text, or the first character that the charset lacks. -/
def encode (charset : Charset) (text : String) : Except Unencodable Bytes :=
  charset.encodeChars text.toList

end Charset

/-- A code point in upper-case hexadecimal digits, at least four. -/
def codePointLabel (c : Char) : String :=
  let digits := (hexDigits c.toNat).map Char.toUpper
  "U+" ++ String.ofList (List.replicate (4 - digits.length) '0' ++ digits)

/-- The wording of the error. -/
def Unencodable.message (e : Unencodable) : String :=
  "character " ++ quoteChar e.character ++ " (" ++ codePointLabel e.character ++
    ") cannot be encoded in " ++ e.charset.name

end CompilerHints
