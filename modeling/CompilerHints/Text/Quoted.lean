import CompilerHints.Text.Unprintable

/-!
# Quoted texts and characters

Messages show a text between double quotes and a character between single ones. The quote in use
and the backslash are escaped, as are NUL, tab, line feed and carriage return; any other character
that is unprintable or combining is shown by its code point.

* `quoteText`, `quoteChar`: the quoted forms.
* `hexDigits`: lower-case hexadecimal digits, the fewest that are needed.
-/

namespace CompilerHints.Text

/-- A number in lower-case hexadecimal digits without leading zeros. -/
def hexDigits (n : Nat) : List Char :=
  Nat.toDigits 16 n

/-- A character as it is shown between quotes of the given kind. -/
def escape (quote : Char) (c : Char) : List Char :=
  if c == '\x00' then ['\\', '0']
  else if c == '\t' then ['\\', 't']
  else if c == '\r' then ['\\', 'r']
  else if c == '\n' then ['\\', 'n']
  else if c == '\\' || c == quote then ['\\', c]
  else if isCombining c || isUnprintable c then
    ['\\', 'u', '\x7b'] ++ hexDigits c.toNat ++ ['\x7d']
  else [c]

/-- A text between double quotes. -/
def quoteText (text : String) : String :=
  String.ofList (['"'] ++ text.toList.flatMap (escape '"') ++ ['"'])

/-- A character between single quotes. -/
def quoteChar (c : Char) : String :=
  String.ofList (['\''] ++ escape '\'' c ++ ['\''])

end CompilerHints.Text
