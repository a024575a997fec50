import CompilerHints.Merge
import CompilerHints.Proofs.Artifact
import CompilerHints.Proofs.FragmentDirectory

/-!
# Merging and writing

* `mergeIn`: merging when the entries of the directory come in a given order.
* `mergeIn_of_collectIn`, `merge_of_collect`: a merge collects a set and writes it.
* `SameArtifact`: two attempts to write an artifact come to the same bytes, or to the same character
  that the charset lacks.
* `sameArtifact_of_collect`: directories that are collected to the same set.
* `MergesTo`, `mergesTo_of_collect`: a merge comes to the artifact of the set that it collects.
-/

namespace CompilerHints

open Text

/-- Merges the entries of a directory in a given order. -/
def mergeIn (order : FragmentDirectory.Enumeration) (dir? output? : Option Path)
    (charset : Charset) (fs : FileSystem) : Except Failure MergeReport × FileSystem :=
  match dir? with
  | none => (.error .mergeInputMissing, fs)
  | some dir =>
    if !fs.isDirectory dir then (.error (.mergeInputNotDirectory dir), fs)
    else
      match output? with
      | none => (.error .mergeOutputMissing, fs)
      | some output =>
        match FragmentDirectory.collectIn order ⟨dir⟩ fs with
        | .error failure => (.error failure, fs)
        | .ok (set, fragments) =>
          match writeArtifact output set.finalize charset fs with
          | (.error failure, fs) => (.error failure, fs)
          | (.ok _, fs) => (.ok ⟨fragments, set.finalize.length, set.quiet, output⟩, fs)

theorem mergeIn_asListed : mergeIn .asListed = merge := rfl

/-- A merge writes the artifact of the set that it collects. -/
theorem mergeIn_of_collectIn {order : FragmentDirectory.Enumeration} {dir output : Path}
    {fs : FileSystem} {set : CommandSet} {fragments : Nat}
    (h : FragmentDirectory.collectIn order ⟨dir⟩ fs = .ok (set, fragments)) (charset : Charset) :
    mergeIn order (some dir) (some output) charset fs =
      match writeArtifact output set.finalize charset fs with
      | (.error failure, fs) => (.error failure, fs)
      | (.ok _, fs) => (.ok ⟨fragments, set.finalize.length, set.quiet, output⟩, fs) := by
  have hdir : fs.isDirectory dir = true := by
    unfold FragmentDirectory.collectIn at h
    split at h
    · cases h
    · next hlist => exact FileSystem.isDirectory_iff_exists_list?.2 ⟨_, hlist⟩
  simp only [mergeIn, hdir, Bool.not_true, Bool.false_eq_true, if_false, h]

theorem merge_of_collect {dir output : Path} {fs : FileSystem} {set : CommandSet}
    {fragments : Nat} (h : FragmentDirectory.collect ⟨dir⟩ fs = .ok (set, fragments))
    (charset : Charset) :
    merge (some dir) (some output) charset fs =
      match writeArtifact output set.finalize charset fs with
      | (.error failure, fs) => (.error failure, fs)
      | (.ok _, fs) => (.ok ⟨fragments, set.finalize.length, set.quiet, output⟩, fs) := by
  rw [← FragmentDirectory.collectIn_asListed] at h
  rw [← mergeIn_asListed]
  exact mergeIn_of_collectIn h charset

/-- A merge writes the encoded lines of the set that it collects. -/
theorem writes_merge {dir output : Path} {fs : FileSystem} {set : CommandSet} {fragments : Nat}
    (h : FragmentDirectory.collect ⟨dir⟩ fs = .ok (set, fragments)) {charset : Charset}
    {bytes : Bytes} (hencode : charset.encode (renderArtifact set.finalize) = .ok bytes) :
    Writes output bytes (merge (some dir) (some output) charset fs) := by
  have hwrites := writes_writeWithParents output bytes fs
  rw [merge_of_collect h, writeArtifact_of_encode_eq_ok hencode]
  split
  · next hwrite => rwa [hwrite] at hwrites
  · next hwrite => rwa [hwrite] at hwrites

/-- A character that the charset lacks is found before any file is touched. -/
theorem merge_of_encode_eq_error {dir output : Path} {fs : FileSystem} {set : CommandSet}
    {fragments : Nat} (h : FragmentDirectory.collect ⟨dir⟩ fs = .ok (set, fragments))
    {charset : Charset} {cause : Unencodable}
    (hencode : charset.encode (renderArtifact set.finalize) = .error cause) :
    merge (some dir) (some output) charset fs = (.error (.unmappable cause), fs) := by
  rw [merge_of_collect h, writeArtifact_of_encode_eq_error hencode]

/-- Two attempts to write an artifact come to the same bytes, or to the same character that the
charset lacks. -/
def SameArtifact {α β : Type} (path path' : Path) (a : Except Failure α × FileSystem)
    (b : Except Failure β × FileSystem) : Prop :=
  (∃ bytes, Writes path bytes a ∧ Writes path' bytes b) ∨
    ∃ cause, a.1 = .error (.unmappable cause) ∧ b.1 = .error (.unmappable cause)

/-- Directories that are collected to the same set merge to the same artifact. -/
theorem sameArtifact_of_collect {dir dir' : Path} {fs fs' : FileSystem} {set : CommandSet}
    {fragments fragments' : Nat}
    (h : FragmentDirectory.collect ⟨dir⟩ fs = .ok (set, fragments))
    (h' : FragmentDirectory.collect ⟨dir'⟩ fs' = .ok (set, fragments')) (charset : Charset)
    (output output' : Path) :
    SameArtifact output output' (merge (some dir) (some output) charset fs)
      (merge (some dir') (some output') charset fs') := by
  cases hencode : charset.encode (renderArtifact set.finalize) with
  | error cause =>
    rw [merge_of_encode_eq_error h hencode, merge_of_encode_eq_error h' hencode]
    exact .inr ⟨cause, rfl, rfl⟩
  | ok bytes => exact .inl ⟨bytes, writes_merge h hencode, writes_merge h' hencode⟩

/-- Merging a directory comes to the artifact of some lines, whatever the charset: to the same
bytes as writing them anywhere, and on the same files to the same files. -/
structure MergesTo (dir : Path) (fs : FileSystem) (lines : List String) : Prop where
  artifact : ∀ (charset : Charset) (output path : Path) (fs' : FileSystem),
    SameArtifact output path (merge (some dir) (some output) charset fs)
      (writeArtifact path lines charset fs')
  succeeds : ∀ (charset : Charset) (output : Path),
    (merge (some dir) (some output) charset fs).1.isOk =
      (writeArtifact output lines charset fs).1.isOk
  files : ∀ (charset : Charset) (output : Path),
    (merge (some dir) (some output) charset fs).2 = (writeArtifact output lines charset fs).2

/-- Merging a directory comes to the artifact of the set that is collected from it. -/
theorem mergesTo_of_collect {dir : Path} {fs : FileSystem} {set : CommandSet} {fragments : Nat}
    (h : FragmentDirectory.collect ⟨dir⟩ fs = .ok (set, fragments)) :
    MergesTo dir fs set.finalize where
  artifact charset output path fs' := by
    cases hencode : charset.encode (renderArtifact set.finalize) with
    | error cause =>
      rw [merge_of_encode_eq_error h hencode, writeArtifact_of_encode_eq_error hencode]
      exact .inr ⟨cause, rfl, rfl⟩
    | ok bytes =>
      rw [writeArtifact_of_encode_eq_ok hencode]
      exact .inl ⟨bytes, writes_merge h hencode, writes_writeWithParents path bytes fs'⟩
  succeeds charset output := by
    rw [merge_of_collect h]
    split
    · next hwrite => rw [hwrite]; rfl
    · next hwrite => rw [hwrite]; rfl
  files charset output := by
    rw [merge_of_collect h]
    split
    · next hwrite => rw [hwrite]
    · next hwrite => rw [hwrite]

end CompilerHints
