import CompilerHints.Artifact
import CompilerHints.Proofs.Decoding
import CompilerHints.Proofs.FileSystem
import CompilerHints.Proofs.Pieces

/-!
# What is written as an artifact

* `Writes`: an attempt to write bytes, which the file system may refuse.
* `writeArtifact_of_encode_eq_ok`, `writeArtifact_of_encode_eq_error`: the two ways of an artifact.
* `read?_of_writeArtifact`, `length_of_writeArtifact`: an artifact that was written is read back.
* `Charset.encode_renderArtifact_inj`: lines without line feeds are told by the encoded artifact.
-/

namespace CompilerHints

open Text

/-- An attempt to write bytes to a path: they are read back, unless the file system refused. -/
def Writes {α : Type} (path : Path) (bytes : Bytes) : Except Failure α × FileSystem → Prop
  | (.ok _, fs) => fs.read? path = some bytes
  | (.error failure, _) => ∃ refused, failure = .io refused

theorem writes_writeWithParents (path : Path) (bytes : Bytes) (fs : FileSystem) :
    Writes path bytes (writeWithParents path bytes fs) := by
  unfold writeWithParents
  dsimp only
  split
  · exact ⟨_, rfl⟩
  · split
    · next hwrite => exact FileSystem.read?_of_write? hwrite
    · exact ⟨_, rfl⟩

theorem writeArtifact_of_encode_eq_ok {path : Path} {lines : List String} {charset : Charset}
    {bytes : Bytes} (h : charset.encode (renderArtifact lines) = .ok bytes) (fs : FileSystem) :
    writeArtifact path lines charset fs = writeWithParents path bytes fs := by
  rw [writeArtifact, h]

theorem writeArtifact_of_encode_eq_error {path : Path} {lines : List String} {charset : Charset}
    {cause : Unencodable} (h : charset.encode (renderArtifact lines) = .error cause)
    (fs : FileSystem) :
    writeArtifact path lines charset fs = (.error (.unmappable cause), fs) := by
  rw [writeArtifact, h]

/-- An artifact that was written is read back: the file has the encoded lines and nothing else. -/
theorem read?_of_writeArtifact {path : Path} {lines : List String} {charset : Charset}
    {fs fs' : FileSystem} {count : Nat}
    (h : writeArtifact path lines charset fs = (.ok count, fs')) :
    ∃ bytes, charset.encode (renderArtifact lines) = .ok bytes ∧
      fs'.read? path = some bytes := by
  cases hencode : charset.encode (renderArtifact lines) with
  | error cause =>
    rw [writeArtifact_of_encode_eq_error hencode] at h
    cases h
  | ok bytes =>
    rw [writeArtifact_of_encode_eq_ok hencode] at h
    have hwrites := writes_writeWithParents path bytes fs
    rw [h] at hwrites
    exact ⟨bytes, rfl, hwrites⟩

/-- An artifact cannot be written only where the charset lacks a character or the file system
refuses something. -/
theorem ne_input_of_writeArtifact {path : Path} {lines : List String} {charset : Charset}
    {fs fs' : FileSystem} {failure : Failure}
    (h : writeArtifact path lines charset fs = (.error failure, fs')) (problem : InputProblem) :
    failure ≠ .input problem := by
  rintro rfl
  cases hencode : charset.encode (renderArtifact lines) with
  | error cause =>
    rw [writeArtifact_of_encode_eq_error hencode] at h
    cases h
  | ok bytes =>
    rw [writeArtifact_of_encode_eq_ok hencode] at h
    have hwrites := writes_writeWithParents path bytes fs
    rw [h] at hwrites
    obtain ⟨refused, hrefused⟩ := hwrites
    cases hrefused

/-- The answer is the number of bytes that were written. -/
theorem length_of_writeArtifact {path : Path} {lines : List String} {charset : Charset}
    {fs fs' : FileSystem} {count : Nat} {bytes : Bytes}
    (hencode : charset.encode (renderArtifact lines) = .ok bytes)
    (h : writeArtifact path lines charset fs = (.ok count, fs')) : count = bytes.length := by
  rw [writeArtifact_of_encode_eq_ok hencode] at h
  unfold writeWithParents at h
  dsimp only at h
  split at h
  · cases h
  · split at h
    · cases h
      rfl
    · cases h

/-- Lines without line feeds are told by the bytes of their artifact. -/
theorem Charset.encode_renderArtifact_inj {charset : Charset} {a b : List String} {x y : Bytes}
    (ha : ∀ line ∈ a, '\n' ∉ line.toList) (hb : ∀ line ∈ b, '\n' ∉ line.toList)
    (hx : charset.encode (renderArtifact a) = .ok x)
    (hy : charset.encode (renderArtifact b) = .ok y) : x = y ↔ a = b := by
  constructor
  · rintro rfl
    exact (joinLines_inj ha hb).1 (encode_inj hx hy)
  · rintro rfl
    exact Except.ok.inj (hx.symm.trans hy)

end CompilerHints
