/-!
# UTF-16 code units

* `utf16Units`: one unit for a character below 0x10000, else a surrogate pair.
* `length_utf16Units`: there are one or two of them.
-/

namespace CompilerHints.Text

/-- The UTF-16 code units of a character: itself, or a high and a low surrogate. -/
def utf16Units (c : Char) : List UInt16 :=
  if c.toNat < 0x10000 then [c.toNat.toUInt16]
  else
    let offset := c.toNat - 0x10000
    [(0xD800 + offset / 0x400).toUInt16, (0xDC00 + offset % 0x400).toUInt16]

theorem length_utf16Units (c : Char) :
    (utf16Units c).length = if c.toNat < 0x10000 then 1 else 2 := by
  unfold utf16Units
  split <;> rfl

end CompilerHints.Text
