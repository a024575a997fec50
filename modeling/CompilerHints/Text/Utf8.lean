import Std.Data.ExtTreeSet

/-!
# UTF-8

The bytes of a text, the text of bytes, and the order of texts by their bytes.

* `utf8Bytes`, `ofUtf8Bytes?`: encoding, and decoding of well-formed bytes.
* `byteOrder`: comparison of texts by their UTF-8 bytes, a linear order.
* `ofUtf8Bytes?_utf8Bytes`: bytes of a text decode to that text.
* `utf8Bytes_append`: the bytes of a concatenation are concatenated.
-/

namespace CompilerHints.Text

/-- A sequence of bytes, such as the content of a file. -/
abbrev Bytes := List UInt8

/-- The UTF-8 encoding of a text. -/
def utf8Bytes (text : String) : Bytes :=
  text.toByteArray.data.toList

/-- The text that bytes encode in UTF-8, if they are well-formed. -/
def ofUtf8Bytes? (bytes : Bytes) : Option String :=
  String.fromUTF8? ⟨bytes.toArray⟩

/-- Texts are compared byte by byte, a proper beginning being smaller. -/
def byteOrder (a b : String) : Ordering :=
  compareOn utf8Bytes a b

theorem utf8Bytes_injective {a b : String} (h : utf8Bytes a = utf8Bytes b) : a = b := by
  rw [← String.toByteArray_inj]
  exact ByteArray.ext (Array.toList_inj.1 h)

theorem utf8Bytes_eq_flatMap (text : String) :
    utf8Bytes text = text.toList.flatMap String.utf8EncodeChar := by
  rw [utf8Bytes, ← String.utf8Encode_toList, List.utf8Encode]
  simp

@[simp] theorem utf8Bytes_append (a b : String) :
    utf8Bytes (a ++ b) = utf8Bytes a ++ utf8Bytes b := by
  simp [utf8Bytes, String.toByteArray_append]

theorem mk_utf8Bytes (text : String) : ByteArray.mk (utf8Bytes text).toArray = text.toByteArray :=
  ByteArray.ext Array.toArray_toList

@[simp] theorem ofUtf8Bytes?_utf8Bytes (text : String) :
    ofUtf8Bytes? (utf8Bytes text) = some text := by
  rw [ofUtf8Bytes?, mk_utf8Bytes, String.fromUTF8?, dif_pos text.isValidUTF8]
  rfl

instance : Std.TransCmp byteOrder :=
  inferInstanceAs (Std.TransCmp (compareOn utf8Bytes))

instance : Std.LawfulEqCmp byteOrder where
  eq_of_compare h := by
    refine utf8Bytes_injective ?_
    exact Std.LawfulEqOrd.eq_of_compare h
  compare_self := Std.ReflCmp.compare_self

end CompilerHints.Text
