import CompilerHints.Proofs.Encoding
import Mathlib.Data.List.Basic

/-!
# Decoded bytes

Each charset has a decoder, which takes well-formed bytes and nothing else. No byte order mark is
asked for or dropped: it is a character like any other one.

* `Text.ofUtf16Units?`: the characters of UTF-16 code units, surrogate pairs included.
* `Charset.decode?`: the text that bytes stand for in a charset.
* `Charset.decode?_eq_some_iff`: the bytes of a text, and no others, are decoded to it.
* `Charset.encode_inj`: texts with the same bytes are the same.
* `Charset.encode_append`: a concatenation is encoded piece by piece.
* `Charset.isExactCode_encode`: all that a charset promises of its encoding.
-/

namespace CompilerHints

namespace Text

/-- A code point is that of its character. -/
theorem toNat_charOfNat {n : Nat} (h : n.isValidChar) : (Char.ofNat n).toNat = n := by
  rw [Char.ofNat, dif_pos h]
  rfl

/-! ### UTF-8 -/

/-- Decoding accepts the bytes of a text and no others. -/
theorem ofUtf8Bytes?_eq_some_iff {bytes : Bytes} {text : String} :
    ofUtf8Bytes? bytes = some text ↔ bytes = utf8Bytes text := by
  constructor
  · intro h
    unfold ofUtf8Bytes? String.fromUTF8? at h
    split at h
    · cases h
      rfl
    · cases h
  · rintro rfl
    exact ofUtf8Bytes?_utf8Bytes text

/-! ### One byte for each character -/

/-- The characters that bytes stand for one by one, up to a largest code point. -/
def ofCodePoints? (limit : Nat) : Bytes → Option (List Char)
  | [] => some []
  | b :: rest =>
    if b.toNat ≤ limit then (ofCodePoints? limit rest).map (Char.ofNat b.toNat :: ·) else none

theorem toNat_ofNat_toNat (b : UInt8) : (Char.ofNat b.toNat).toNat = b.toNat := by
  have hb := b.toNat_lt
  exact toNat_charOfNat (.inl (by omega))

/-- Decoding accepts the code points of characters up to the largest one, and nothing else. -/
theorem ofCodePoints?_eq_some_iff {limit : Nat} (hlimit : limit ≤ 0xFF) {bytes : Bytes}
    {cs : List Char} :
    ofCodePoints? limit bytes = some cs ↔
      (∀ c ∈ cs, c.toNat ≤ limit) ∧ bytes = cs.map fun c => c.toNat.toUInt8 := by
  induction bytes generalizing cs with
  | nil => cases cs <;> simp [ofCodePoints?]
  | cons b rest ih =>
    rw [ofCodePoints?]
    constructor
    · intro h
      obtain ⟨hb, h⟩ := Option.ite_none_right_eq_some.1 h
      obtain ⟨ds, hds, rfl⟩ := Option.map_eq_some_iff.1 h
      obtain ⟨hall, rfl⟩ := ih.1 hds
      refine ⟨List.forall_mem_cons.2 ⟨?_, hall⟩, ?_⟩
      · rwa [toNat_ofNat_toNat]
      · rw [List.map_cons, toNat_ofNat_toNat]
        simp
    · rintro ⟨hall, h⟩
      cases cs with
      | nil => cases h
      | cons c cs =>
        rw [List.forall_mem_cons] at hall
        obtain ⟨rfl, hrest⟩ := List.cons.inj h
        have hc : c.toNat.toUInt8.toNat = c.toNat := by
          rw [UInt8.toNat_ofNat']
          exact Nat.mod_eq_of_lt (by omega)
        rw [hc, if_pos hall.1, ih.2 ⟨hall.2, hrest⟩, Option.map_some, Char.ofNat_toNat]

/-! ### UTF-16 code units -/

/-- Whether a unit is the first half of a pair. -/
def isHighSurrogate (u : UInt16) : Bool :=
  0xD800 ≤ u.toNat && u.toNat < 0xDC00

/-- Whether a unit is the second half of a pair. -/
def isLowSurrogate (u : UInt16) : Bool :=
  0xDC00 ≤ u.toNat && u.toNat < 0xE000

/-- The character of a surrogate pair. -/
def ofSurrogates (high low : UInt16) : Char :=
  Char.ofNat (0x10000 + (high.toNat - 0xD800) * 0x400 + (low.toNat - 0xDC00))

/-- The characters that code units stand for. A high surrogate and a low one right behind it are a
character, and so is any unit that is no surrogate; half of a pair stands for nothing. -/
def ofUtf16Units? : List UInt16 → Option (List Char)
  | [] => some []
  | u :: rest =>
    if isHighSurrogate u then
      match rest with
      | [] => none
      | v :: rest =>
        if isLowSurrogate v then (ofUtf16Units? rest).map (ofSurrogates u v :: ·) else none
    else if isLowSurrogate u then none
    else (ofUtf16Units? rest).map (Char.ofNat u.toNat :: ·)

theorem toNat_toUInt16_of_lt {n : Nat} (h : n < 0x10000) : n.toUInt16.toNat = n := by
  rw [UInt16.toNat_ofNat']
  exact Nat.mod_eq_of_lt h

/-- A unit that is no surrogate is the only unit of its character. -/
theorem utf16Units_ofNat {u : UInt16} (hhigh : ¬ isHighSurrogate u) (hlow : ¬ isLowSurrogate u) :
    utf16Units (Char.ofNat u.toNat) = [u] := by
  simp only [isHighSurrogate, isLowSurrogate, Bool.and_eq_true, decide_eq_true_eq] at hhigh hlow
  have hu := u.toNat_lt
  have hchar : (Char.ofNat u.toNat).toNat = u.toNat := by
    apply toNat_charOfNat
    unfold Nat.isValidChar
    omega
  rw [utf16Units, hchar, if_pos hu]
  simp

/-- The units of the character of a surrogate pair are that pair. -/
theorem utf16Units_ofSurrogates {u v : UInt16} (hu : isHighSurrogate u) (hv : isLowSurrogate v) :
    utf16Units (ofSurrogates u v) = [u, v] := by
  simp only [isHighSurrogate, isLowSurrogate, Bool.and_eq_true, decide_eq_true_eq] at hu hv
  have hchar : (ofSurrogates u v).toNat =
      0x10000 + (u.toNat - 0xD800) * 0x400 + (v.toNat - 0xDC00) := by
    apply toNat_charOfNat
    unfold Nat.isValidChar
    omega
  rw [utf16Units, hchar, if_neg (by omega)]
  have high : 0xD800 + (0x10000 + (u.toNat - 0xD800) * 0x400 + (v.toNat - 0xDC00) - 0x10000) /
      0x400 = u.toNat := by omega
  have low : 0xDC00 + (0x10000 + (u.toNat - 0xD800) * 0x400 + (v.toNat - 0xDC00) - 0x10000) %
      0x400 = v.toNat := by omega
  dsimp only
  rw [high, low]
  simp

/-- The units of a character are read as that character, whatever follows them. -/
theorem ofUtf16Units?_append (c : Char) (rest : List UInt16) :
    ofUtf16Units? (utf16Units c ++ rest) = (ofUtf16Units? rest).map (c :: ·) := by
  have hc : c.toNat < 0xD800 ∨ 0xDFFF < c.toNat ∧ c.toNat < 0x110000 := c.valid
  unfold utf16Units
  split
  · next hsmall =>
    have hunit := toNat_toUInt16_of_lt hsmall
    rw [List.singleton_append, ofUtf16Units?.eq_def]
    dsimp only
    rw [if_neg, if_neg, hunit, Char.ofNat_toNat]
    · simp only [isLowSurrogate, hunit, Bool.and_eq_true, decide_eq_true_eq]
      omega
    · simp only [isHighSurrogate, hunit, Bool.and_eq_true, decide_eq_true_eq]
      omega
  · next hlarge =>
    have hhigh := toNat_toUInt16_of_lt (n := 0xD800 + (c.toNat - 0x10000) / 0x400) (by omega)
    have hlow := toNat_toUInt16_of_lt (n := 0xDC00 + (c.toNat - 0x10000) % 0x400) (by omega)
    dsimp only
    rw [List.cons_append, List.singleton_append, ofUtf16Units?, if_pos]
    · rw [if_pos, ofSurrogates, hhigh, hlow]
      · have hjoin : 0x10000 + (0xD800 + (c.toNat - 0x10000) / 0x400 - 0xD800) * 0x400 +
            (0xDC00 + (c.toNat - 0x10000) % 0x400 - 0xDC00) = c.toNat := by omega
        rw [hjoin, Char.ofNat_toNat]
      · simp only [isLowSurrogate, hlow, Bool.and_eq_true, decide_eq_true_eq]
        omega
    · simp only [isHighSurrogate, hhigh, Bool.and_eq_true, decide_eq_true_eq]
      omega

/-- Decoding accepts the code units of characters and nothing else. -/
theorem ofUtf16Units?_eq_some_iff {units : List UInt16} {cs : List Char} :
    ofUtf16Units? units = some cs ↔ units = cs.flatMap utf16Units := by
  constructor
  · intro h
    fun_induction ofUtf16Units? units generalizing cs with
    | case1 =>
      cases h
      rfl
    | case2 u hu => cases h
    | case3 u hu v rest hv ih =>
      obtain ⟨ds, hds, rfl⟩ := Option.map_eq_some_iff.1 h
      rw [List.flatMap_cons, utf16Units_ofSurrogates hu hv, ← ih hds]
      rfl
    | case4 u hu v rest hv => cases h
    | case5 u rest hu hlow => cases h
    | case6 u rest hu hlow ih =>
      obtain ⟨ds, hds, rfl⟩ := Option.map_eq_some_iff.1 h
      rw [List.flatMap_cons, utf16Units_ofNat hu hlow, ← ih hds]
      rfl
  · rintro rfl
    induction cs with
    | nil => rfl
    | cons c cs ih => rw [List.flatMap_cons, ofUtf16Units?_append, ih, Option.map_some]

/-! ### Code units of bytes -/

/-- The unit that two bytes make, the high one first. -/
def ofBigEndian (high low : UInt8) : UInt16 :=
  (high.toNat * 0x100 + low.toNat).toUInt16

/-- The unit that two bytes make, the low one first. -/
def ofLittleEndian (low high : UInt8) : UInt16 :=
  ofBigEndian high low

/-- The units that bytes make in pairs. -/
def pairUp? (unit : UInt8 → UInt8 → UInt16) : Bytes → Option (List UInt16)
  | [] => some []
  | [_] => none
  | a :: b :: rest => (pairUp? unit rest).map (unit a b :: ·)

/-- A unit is written as two bytes that make it, and any two bytes are those of the unit that they
make. -/
structure IsPairCode (unit : UInt8 → UInt8 → UInt16) (unitBytes : UInt16 → Bytes) : Prop where
  exists_pair : ∀ u, ∃ a b, unitBytes u = [a, b] ∧ unit a b = u
  unitBytes_unit : ∀ a b, unitBytes (unit a b) = [a, b]

/-- Decoding accepts the bytes of units and nothing else. -/
theorem IsPairCode.pairUp?_eq_some_iff {unit : UInt8 → UInt8 → UInt16}
    {unitBytes : UInt16 → Bytes} (h : IsPairCode unit unitBytes) {bytes : Bytes}
    {units : List UInt16} :
    pairUp? unit bytes = some units ↔ bytes = units.flatMap unitBytes := by
  constructor
  · intro hread
    fun_induction pairUp? unit bytes generalizing units with
    | case1 =>
      cases hread
      rfl
    | case2 a => cases hread
    | case3 a b rest ih =>
      obtain ⟨more, hmore, rfl⟩ := Option.map_eq_some_iff.1 hread
      rw [List.flatMap_cons, h.unitBytes_unit, ← ih hmore]
      rfl
  · rintro rfl
    induction units with
    | nil => rfl
    | cons u units ih =>
      obtain ⟨a, b, hbytes, rfl⟩ := h.exists_pair u
      rw [List.flatMap_cons, hbytes, List.cons_append, List.singleton_append, pairUp?, ih,
        Option.map_some]

end Text

namespace Charset

open Text

theorem toNat_ofBigEndian (high low : UInt8) :
    (ofBigEndian high low).toNat = high.toNat * 0x100 + low.toNat := by
  have hhigh := high.toNat_lt
  have hlow := low.toNat_lt
  exact toNat_toUInt16_of_lt (by omega)

theorem toNat_highByte (u : UInt16) : (u >>> 8).toUInt8.toNat = u.toNat / 0x100 := by
  have hpow : 2 ^ (8 % 16) = 0x100 := rfl
  have hu := u.toNat_lt
  simp only [UInt16.toNat_toUInt8, UInt16.toNat_shiftRight, UInt16.reduceToNat,
    Nat.shiftRight_eq_div_pow, hpow]
  omega

theorem isPairCode_bigEndian : IsPairCode ofBigEndian bigEndian where
  exists_pair u := by
    refine ⟨(u >>> 8).toUInt8, u.toUInt8, rfl, ?_⟩
    apply UInt16.toNat_inj.1
    rw [toNat_ofBigEndian, toNat_highByte, UInt16.toNat_toUInt8]
    omega
  unitBytes_unit high low := by
    have hlow := low.toNat_lt
    have hfirst : (ofBigEndian high low >>> 8).toUInt8 = high := by
      apply UInt8.toNat_inj.1
      rw [toNat_highByte, toNat_ofBigEndian]
      omega
    have hsecond : (ofBigEndian high low).toUInt8 = low := by
      apply UInt8.toNat_inj.1
      rw [UInt16.toNat_toUInt8, toNat_ofBigEndian]
      omega
    rw [bigEndian, hfirst, hsecond]

theorem isPairCode_littleEndian : IsPairCode ofLittleEndian littleEndian where
  exists_pair u := by
    obtain ⟨a, b, hbytes, hunit⟩ := isPairCode_bigEndian.exists_pair u
    simp only [bigEndian, List.cons.injEq] at hbytes
    exact ⟨b, a, by simp [littleEndian, hbytes], hunit⟩
  unitBytes_unit low high := by
    have hbytes := isPairCode_bigEndian.unitBytes_unit high low
    simp only [bigEndian, List.cons.injEq] at hbytes
    simp [littleEndian, ofLittleEndian, hbytes]

/-- Bytes with the two of each pair swapped. -/
def swapPairs : Bytes → Bytes
  | a :: b :: rest => b :: a :: swapPairs rest
  | rest => rest

theorem swapPairs_flatMap_bigEndian (units : List UInt16) :
    swapPairs (units.flatMap bigEndian) = units.flatMap littleEndian := by
  induction units with
  | nil => rfl
  | cons u units ih =>
    simp only [List.flatMap_cons, bigEndian, littleEndian, List.cons_append, List.nil_append,
      swapPairs] at ih ⊢
    rw [ih]

/-! ### Decoders -/

/-- The characters of a charset, by their code points. -/
def has : Charset → Char → Bool
  | usAscii, c => c.toNat ≤ 0x7F
  | latin1, c => c.toNat ≤ 0xFF
  | _, _ => true

theorem represents_iff {charset : Charset} {c : Char} :
    charset.Represents c ↔ charset.has c = true := by
  cases charset <;> simp [Represents, encodeChar?, has]

/-- The text that bytes stand for in a charset, if they are well-formed. -/
def decode? : Charset → Bytes → Option String
  | utf8, bytes => ofUtf8Bytes? bytes
  | usAscii, bytes => (ofCodePoints? 0x7F bytes).map String.ofList
  | latin1, bytes => (ofCodePoints? 0xFF bytes).map String.ofList
  | utf16be, bytes => ((pairUp? ofBigEndian bytes).bind ofUtf16Units?).map String.ofList
  | utf16le, bytes => ((pairUp? ofLittleEndian bytes).bind ofUtf16Units?).map String.ofList

theorem map_ofList_eq_some_iff {cs? : Option (List Char)} {text : String} :
    cs?.map String.ofList = some text ↔ cs? = some text.toList := by
  rw [Option.map_eq_some_iff]
  constructor
  · rintro ⟨cs, rfl, rfl⟩
    rw [String.toList_ofList]
  · intro h
    exact ⟨_, h, String.ofList_toList⟩

/-- A charset of single bytes is decoded by its code points. -/
theorem ofCodePoints?_eq_some_iff_encodes {charset : Charset} {limit : Nat} (hlimit : limit ≤ 0xFF)
    (hcode : ∀ c, charset.encodeChar? c =
      if c.toNat ≤ limit then some [c.toNat.toUInt8] else none) {bytes : Bytes} {text : String} :
    ofCodePoints? limit bytes = some text.toList ↔ charset.encode text = .ok bytes := by
  have hrep (c : Char) : charset.Represents c ↔ c.toNat ≤ limit := by
    rw [Represents, hcode]
    split <;> simp_all
  rw [ofCodePoints?_eq_some_iff hlimit, encode_eq_ok_iff]
  simp only [hrep]
  refine and_congr_right fun hall => ?_
  rw [List.map_eq_flatMap]
  have hbytes : text.toList.flatMap charset.charBytes =
      text.toList.flatMap fun c => [c.toNat.toUInt8] := by
    apply List.flatMap_congr
    intro c hc
    rw [charBytes, hcode, if_pos (hall c hc), Option.getD_some]
  rw [hbytes]

/-- A charset of 16-bit units is decoded by its units. -/
theorem bind_ofUtf16Units?_eq_some_iff_encodes {charset : Charset}
    {unit : UInt8 → UInt8 → UInt16} {unitBytes : UInt16 → Bytes} (h : IsPairCode unit unitBytes)
    (hcode : ∀ c, charset.encodeChar? c = some ((utf16Units c).flatMap unitBytes)) {bytes : Bytes}
    {text : String} :
    (pairUp? unit bytes).bind ofUtf16Units? = some text.toList ↔
      charset.encode text = .ok bytes := by
  have hrep (c : Char) : charset.Represents c := by
    rw [Represents, hcode]
    rfl
  have hbytes : charset.charBytes = fun c => (utf16Units c).flatMap unitBytes := by
    funext c
    rw [charBytes, hcode, Option.getD_some]
  rw [encode_eq_ok_iff, hbytes, ← List.flatMap_assoc, and_iff_right fun c _ => hrep c,
    Option.bind_eq_some_iff]
  constructor
  · rintro ⟨units, hunits, htext⟩
    rw [h.pairUp?_eq_some_iff.1 hunits, ofUtf16Units?_eq_some_iff.1 htext]
  · intro e
    exact ⟨_, h.pairUp?_eq_some_iff.2 e, ofUtf16Units?_eq_some_iff.2 rfl⟩

/-- Decoding accepts the bytes of a text and no others. -/
theorem decode?_eq_some_iff {charset : Charset} {bytes : Bytes} {text : String} :
    charset.decode? bytes = some text ↔ charset.encode text = .ok bytes := by
  cases charset with
  | utf8 => rw [decode?, ofUtf8Bytes?_eq_some_iff, encode_utf8, Except.ok.injEq, eq_comm]
  | usAscii =>
    rw [decode?, map_ofList_eq_some_iff]
    exact ofCodePoints?_eq_some_iff_encodes (by decide) fun _ => rfl
  | latin1 =>
    rw [decode?, map_ofList_eq_some_iff]
    exact ofCodePoints?_eq_some_iff_encodes (by decide) fun _ => rfl
  | utf16be =>
    rw [decode?, map_ofList_eq_some_iff]
    exact bind_ofUtf16Units?_eq_some_iff_encodes isPairCode_bigEndian fun _ => rfl
  | utf16le =>
    rw [decode?, map_ofList_eq_some_iff]
    exact bind_ofUtf16Units?_eq_some_iff_encodes isPairCode_littleEndian fun _ => rfl

/-- A pair of surrogates is a character, and half of one is nothing. -/
example : utf16le.decode? [0x3D, 0xD8, 0x00, 0xDE] = some "😀" ∧
    utf16le.decode? [0x3D, 0xD8, 0x41, 0x00] = none := by
  decide +kernel

/-- Texts with the same bytes are the same. -/
theorem encode_inj {charset : Charset} {a b : String} {bytes : Bytes}
    (ha : charset.encode a = .ok bytes) (hb : charset.encode b = .ok bytes) : a = b := by
  rw [← decode?_eq_some_iff] at ha hb
  rw [ha] at hb
  exact Option.some.inj hb

/-! ### Encoding piece by piece -/

theorem encodeChars_append (charset : Charset) (a b : List Char) :
    charset.encodeChars (a ++ b) =
      (charset.encodeChars a).bind fun x => (charset.encodeChars b).map (x ++ ·) := by
  induction a with
  | nil =>
    show charset.encodeChars b = (charset.encodeChars b).map ([] ++ ·)
    cases charset.encodeChars b <;> rfl
  | cons c a ih =>
    rw [List.cons_append, encodeChars, encodeChars]
    cases charset.encodeChar? c with
    | none => rfl
    | some bytes =>
      dsimp only
      rw [ih]
      cases charset.encodeChars a with
      | error cause => rfl
      | ok x =>
        cases charset.encodeChars b with
        | error cause => rfl
        | ok y => exact congrArg Except.ok (List.append_assoc bytes x y).symm

/-- The bytes of a concatenation are concatenated. If it cannot be encoded, the character that is
told is that of the first piece that cannot. -/
theorem encode_append (charset : Charset) (a b : String) :
    charset.encode (a ++ b) =
      (charset.encode a).bind fun x => (charset.encode b).map (x ++ ·) := by
  rw [encode, String.toList_append]
  exact charset.encodeChars_append a.toList b.toList

/-- The two forms of UTF-16 differ in the order of the bytes of a pair. -/
theorem encode_utf16le (text : String) :
    utf16le.encode text = (utf16be.encode text).map swapPairs := by
  have hbig : utf16be.encode text = .ok ((text.toList.flatMap utf16Units).flatMap bigEndian) :=
    encode_eq_ok_iff.2 ⟨fun _ _ => rfl, List.flatMap_assoc⟩
  rw [hbig, Except.map, swapPairs_flatMap_bigEndian]
  exact encode_eq_ok_iff.2 ⟨fun _ _ => rfl, List.flatMap_assoc⟩

theorem lacksFirst_iff {charset : Charset} {cs : List Char} {c : Char} :
    charset.LacksFirst cs c ↔ cs.find? (fun d => !charset.has d) = some c := by
  simp only [LacksFirst, represents_iff, List.find?_eq_some_iff_append, Bool.not_not,
    Bool.not_eq_true', Bool.not_eq_true]
  constructor
  · rintro ⟨pre, post, e, hpre, hc⟩
    exact ⟨hc, pre, post, e, hpre⟩
  · rintro ⟨hc, pre, post, e, hpre⟩
    exact ⟨pre, post, e, hpre, hc⟩

/-! ### What a charset promises -/

/-- What a charset promises of the way in which it encodes texts. -/
structure IsExactCode (charset : Charset) (encode : String → Except Unencodable Bytes) : Prop where
  /-- A text has bytes exactly if the charset has all its characters. -/
  isOk_iff : ∀ text, (∃ bytes, encode text = .ok bytes) ↔ ∀ c ∈ text.toList, charset.has c = true
  /-- Otherwise the first character that the charset lacks is told. -/
  error_iff : ∀ text cause, encode text = .error cause ↔
    cause.charset = charset ∧
      text.toList.find? (fun c => !charset.has c) = some cause.character
  /-- The bytes of a text, and no others, are decoded to it. -/
  decoded : ∀ text bytes, encode text = .ok bytes ↔ charset.decode? bytes = some text
  /-- Different texts have different bytes. -/
  injective : ∀ a b bytes, encode a = .ok bytes → encode b = .ok bytes → a = b
  /-- A text can be encoded piece by piece. -/
  append : ∀ a b, encode (a ++ b) = (encode a).bind fun x => (encode b).map (x ++ ·)
  /-- The two forms of UTF-16 differ in the order of the bytes of a pair. -/
  swapped : charset = utf16le → ∀ text, encode text = (utf16be.encode text).map swapPairs

/-- Each charset encodes exactly the texts of its characters, and each of them can be read back. -/
theorem isExactCode_encode (charset : Charset) : IsExactCode charset charset.encode where
  isOk_iff text := by
    simp only [encode_eq_ok_iff, represents_iff]
    constructor
    · rintro ⟨-, hall, -⟩
      exact hall
    · intro hall
      exact ⟨_, hall, rfl⟩
  error_iff text cause := by rw [encode_eq_error_iff, lacksFirst_iff]
  decoded text bytes := decode?_eq_some_iff.symm
  injective a b bytes ha hb := encode_inj ha hb
  append a b := charset.encode_append a b
  swapped h text := by
    subst h
    exact encode_utf16le text

end Charset

end CompilerHints
