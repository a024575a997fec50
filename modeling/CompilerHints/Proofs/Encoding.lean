import CompilerHints.Charset

/-!
# Encoded texts

A charset encodes a text character by character.

* `Charset.encode_eq_ok_iff`: when a text can be encoded, and to which bytes.
* `Charset.encode_eq_error_iff`: which character is told when it cannot.
-/

namespace CompilerHints

namespace Charset

open Text

/-- Whether a charset has a character. -/
def Represents (charset : Charset) (c : Char) : Prop :=
  (charset.encodeChar? c).isSome

/-- The bytes of a character that the charset has. -/
def charBytes (charset : Charset) (c : Char) : Bytes :=
  (charset.encodeChar? c).getD []

theorem encodeChars_eq_ok_iff {charset : Charset} {cs : List Char} {bytes : Bytes} :
    charset.encodeChars cs = .ok bytes ↔
      (∀ c ∈ cs, charset.Represents c) ∧ bytes = cs.flatMap charset.charBytes := by
  induction cs generalizing bytes with
  | nil => simp [encodeChars, eq_comm]
  | cons c cs ih =>
    rw [encodeChars, List.forall_mem_cons, List.flatMap_cons]
    cases hc : charset.encodeChar? c with
    | none => simp [Represents, hc]
    | some b =>
      have hrep : charset.Represents c := by
        rw [Represents, hc]
        rfl
      have hb : charset.charBytes c = b := by rw [charBytes, hc, Option.getD_some]
      cases hcs : charset.encodeChars cs with
      | ok more =>
        obtain ⟨hall, rfl⟩ := ih.1 hcs
        rw [hb, Except.ok.injEq, eq_comm (a := bytes)]
        exact (and_iff_right ⟨hrep, hall⟩).symm
      | error cause =>
        refine iff_of_false (by simp) fun ⟨⟨_, hall⟩, _⟩ => ?_
        rw [ih.2 ⟨hall, rfl⟩] at hcs
        cases hcs

/-- A text can be encoded if the charset has all its characters, and their bytes are written one
after the other. -/
theorem encode_eq_ok_iff {charset : Charset} {text : String} {bytes : Bytes} :
    charset.encode text = .ok bytes ↔
      (∀ c ∈ text.toList, charset.Represents c) ∧
        bytes = text.toList.flatMap charset.charBytes :=
  encodeChars_eq_ok_iff

/-- A character that a charset lacks, behind characters that it has. -/
def LacksFirst (charset : Charset) (cs : List Char) (c : Char) : Prop :=
  ∃ pre post, cs = pre ++ c :: post ∧ (∀ d ∈ pre, charset.Represents d) ∧ ¬ charset.Represents c

theorem encodeChars_eq_error_iff {charset : Charset} {cs : List Char} {cause : Unencodable} :
    charset.encodeChars cs = .error cause ↔
      cause.charset = charset ∧ charset.LacksFirst cs cause.character := by
  obtain ⟨name, lacking⟩ := cause
  induction cs with
  | nil => simp [encodeChars, LacksFirst]
  | cons c cs ih =>
    rw [encodeChars]
    cases hc : charset.encodeChar? c with
    | none =>
      have hlacks : ¬ charset.Represents c := by simp [Represents, hc]
      simp only [Except.error.injEq, Unencodable.mk.injEq, eq_comm (a := charset)]
      refine and_congr_right fun _ => ⟨?_, ?_⟩
      · rintro rfl
        exact ⟨[], cs, rfl, fun _ h => absurd h List.not_mem_nil, hlacks⟩
      · rintro ⟨pre, post, e, hpre, -⟩
        cases pre with
        | nil => exact (List.cons.inj e).1
        | cons d pre =>
          obtain rfl := (List.cons.inj e).1
          exact absurd (hpre c List.mem_cons_self) hlacks
    | some b =>
      have hrep : charset.Represents c := by simp [Represents, hc]
      have hcons : charset.LacksFirst (c :: cs) lacking ↔ charset.LacksFirst cs lacking := by
        constructor
        · rintro ⟨pre, post, e, hpre, hlacks⟩
          cases pre with
          | nil => exact absurd ((List.cons.inj e).1 ▸ hrep) hlacks
          | cons d pre =>
            exact ⟨pre, post, (List.cons.inj e).2, fun x hx => hpre x (List.mem_cons_of_mem _ hx),
              hlacks⟩
        · rintro ⟨pre, post, rfl, hpre, hlacks⟩
          exact ⟨c :: pre, post, rfl, List.forall_mem_cons.2 ⟨hrep, hpre⟩, hlacks⟩
      rw [hcons, ← ih]
      cases charset.encodeChars cs <;> simp

/-- If a charset lacks any of some characters, it lacks one of them first. -/
theorem exists_lacksFirst {charset : Charset} {cs : List Char} {c : Char} (hc : c ∈ cs)
    (h : ¬ charset.Represents c) : ∃ first, charset.LacksFirst cs first := by
  cases hencode : charset.encodeChars cs with
  | ok bytes => exact absurd ((encodeChars_eq_ok_iff.1 hencode).1 c hc) h
  | error cause => exact ⟨_, (encodeChars_eq_error_iff.1 hencode).2⟩

/-- A text cannot be encoded if the charset lacks one of its characters, and the first such
character is told. -/
theorem encode_eq_error_iff {charset : Charset} {text : String} {cause : Unencodable} :
    charset.encode text = .error cause ↔
      cause.charset = charset ∧ charset.LacksFirst text.toList cause.character :=
  encodeChars_eq_error_iff

theorem encode_utf8 (text : String) : utf8.encode text = .ok (utf8Bytes text) := by
  rw [encode_eq_ok_iff, utf8Bytes_eq_flatMap]
  exact ⟨fun _ _ => rfl, rfl⟩

end Charset

end CompilerHints
