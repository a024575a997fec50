import CompilerHints.Proofs.Collector
import CompilerHints.Proofs.Incremental.Stored
import CompilerHints.Proofs.Merge
import Mathlib.Logic.Function.Basic

/-!
# Build units on one directory

Any number of build units, each with a collector of its own, accept lines in any order and keep
their fragments in one directory. What is collected from the directory is what one collector would
have gathered in memory, but for texts that are kept under one name: of these, the last one wins.

* `Units`, `Units.acceptAll`: build units at work.
* `Units.Mirrors`: what the collectors and the files have to do with the lines that were accepted.
* `Units.mirrors_of_acceptAll`: that holds all along.
* `Units.collect_eq_inMemory_iff`: how a merge compares to a collector in memory.
-/

namespace CompilerHints

open Text

/-- Build units at work on the same files, each with a collector of its own. -/
structure Units (ι : Type) where
  collectors : ι → Collector
  files : FileSystem

namespace Units

/-- Build units that accepted nothing yet, with one directory for all fragments. -/
def start (ι : Type) (dir : FragmentDirectory) (files : FileSystem) : Units ι where
  collectors _ := .incremental dir
  files := files

variable {ι : Type} {dir : FragmentDirectory} {u v : Units ι} {i : ι} {line : Line}
  {lines : List Line}

/-- What the collectors and the files have to do with the lines that were accepted: every text
that a unit knows is that of such a line, and the files store these lines. -/
structure Mirrors (dir : FragmentDirectory) (lines : List Line) (u : Units ι) : Prop where
  fragments : ∀ i, (u.collectors i).fragments? = some dir
  commands : ∀ i, ∀ t ∈ (u.collectors i).commands.lines, ∃ line ∈ lines, line.text = t
  stores : Stores dir u.files lines

theorem mirrors_start {fs : FileSystem} (h : dir.HasNoFile fs) :
    Mirrors dir [] (start ι dir fs) where
  fragments _ := rfl
  commands _ t ht := by simp [start, Collector.incremental, CommandSet.empty] at ht
  stores := .nil h

variable [DecidableEq ι]

/-- Lets a unit accept a line. There is nothing after a failure. -/
def accept (u : Units ι) (i : ι) (line : Line) : Option (Units ι) :=
  match (u.collectors i).accept line u.files with
  | (.ok _, c, fs) => some { collectors := Function.update u.collectors i c, files := fs }
  | (.error _, _, _) => none

/-- Lets units accept lines one after the other. -/
def acceptAll (u : Units ι) : List (ι × Line) → Option (Units ι)
  | [] => some u
  | (i, line) :: rest => (u.accept i line).bind fun u => u.acceptAll rest

theorem acceptAll_append (u : Units ι) (a b : List (ι × Line)) :
    u.acceptAll (a ++ b) = (u.acceptAll a).bind fun v => v.acceptAll b := by
  induction a generalizing u with
  | nil => rfl
  | cons call rest ih =>
    obtain ⟨i, line⟩ := call
    rw [List.cons_append, acceptAll, acceptAll, Option.bind_assoc]
    simp only [ih]

/-- A unit knows the text of a line that it accepted, and the other units know what they knew. -/
theorem Mirrors.update (h : Mirrors dir lines u) (i : ι) {fs : FileSystem}
    (hstores : Stores dir fs (lines ++ [line])) :
    Mirrors dir (lines ++ [line])
      ⟨Function.update u.collectors i ((u.collectors i).record [line]), fs⟩ where
  fragments j := by
    dsimp only
    rw [Function.update_apply]
    split
    · exact h.fragments i
    · exact h.fragments j
  commands j t ht := by
    have hold (j : ι) (ht : t ∈ (u.collectors j).commands.lines) :
        ∃ other ∈ lines ++ [line], other.text = t := by
      obtain ⟨other, hother, htext⟩ := h.commands j t ht
      exact ⟨other, List.mem_append_left _ hother, htext⟩
    dsimp only at ht
    rw [Function.update_apply] at ht
    split at ht
    · rcases Collector.mem_lines_record.1 ht with ht | ⟨ht, -⟩
      · exact hold i ht
      · exact ⟨line, List.mem_append_right _ List.mem_cons_self, (List.mem_singleton.1 ht).symm⟩
    · exact hold j ht
  stores := hstores

/-- One acceptance: a unit passes over a line only if one of the same text was kept before. -/
theorem Mirrors.accept (h : Mirrors dir lines u) (haccept : u.accept i line = some v) :
    Mirrors dir (lines ++ [line]) v := by
  unfold Units.accept at haccept
  split at haccept
  · next isNew c fs hcollect =>
    cases haccept
    obtain ⟨rfl, ⟨hquiet, hold, -, rfl⟩ | ⟨-, ⟨p, -, hwrite, -⟩ | ⟨failure, -, hok⟩⟩⟩ :=
      Collector.accept_incremental (h.fragments i) hcollect
    · exact h.update i (h.stores.passOver hquiet (h.commands i _ hold))
    · exact h.update i (h.stores.keep (FragmentDirectory.keeps_of_write hwrite))
    · cases hok
  · cases haccept

/-- The collectors and the files mirror the lines all along. -/
theorem Mirrors.acceptAll {calls : List (ι × Line)} (h : Mirrors dir lines u)
    (haccept : u.acceptAll calls = some v) : Mirrors dir (lines ++ calls.map Prod.snd) v := by
  induction calls generalizing u lines with
  | nil =>
    cases haccept
    rwa [List.map_nil, List.append_nil]
  | cons call rest ih =>
    obtain ⟨i, line⟩ := call
    obtain ⟨next, hnext, hrest⟩ := Option.bind_eq_some_iff.1 haccept
    rw [List.map_cons, List.append_cons]
    exact ih (h.accept hnext) hrest

/-- Units accept lines without fail, in whatever order. After each of their acceptances the
directory can be collected, and what is found are lines that were accepted, with `quiet` if that
was. It is all of them, as a collector gathers them in memory, exactly if no two texts are kept
under one name, and then merging the directory comes to the same artifact as writing the lines
from memory. -/
theorem collect_eq_inMemory_iff {fs : FileSystem} {calls rest : List (ι × Line)} {last : Units ι}
    (hpath : dir.path.text ≠ "") (hempty : dir.HasNoFile fs)
    (hlines : ∀ call ∈ calls ++ rest, '\n' ∉ call.2.text.toList) (hne : calls ≠ [])
    (haccept : (start ι dir fs).acceptAll (calls ++ rest) = some last) :
    ∃ u set count, (start ι dir fs).acceptAll calls = some u ∧
      dir.collect u.files = .ok (set, count) ∧
      ∀ (order : List Line) (fs' : FileSystem), order.Perm (calls.map Prod.snd) →
        let whole := (Collector.inMemory.acceptAll fs' order).1.commands
        set.quiet = whole.quiet ∧ (∀ t ∈ set.lines, t ∈ whole.lines) ∧
          (set = whole ↔ NamesTellTexts (calls.map Prod.snd)) ∧
          (set = whole → MergesTo dir.path u.files whole.finalize) := by
  rw [acceptAll_append] at haccept
  obtain ⟨u, hu, -⟩ := Option.bind_eq_some_iff.1 haccept
  have hstores := ((mirrors_start hempty).acceptAll hu).stores
  rw [List.nil_append] at hstores
  have hfeeds : ∀ line ∈ calls.map Prod.snd, '\n' ∉ line.text.toList := by
    intro line hline
    obtain ⟨call, hcall, rfl⟩ := List.mem_map.1 hline
    exact hlines call (List.mem_append_left _ hcall)
  obtain ⟨texts, count, hcollect, htexts⟩ :=
    hstores.collect_eq_ok hpath (mt List.map_eq_nil_iff.1 hne) hfeeds
  refine ⟨u, _, count, hu, hcollect, fun order fs' hperm => ?_⟩
  have hwhole : (Collector.inMemory.acceptAll fs' order).1.commands =
      CommandSet.ofTexts (order.map Line.text) := by
    rw [Collector.acceptAll_inMemory rfl]
    rfl
  have hall (t : String) :
      t ∈ order.map Line.text ↔ ∃ line ∈ calls.map Prod.snd, line.text = t := by
    simp only [List.mem_map (f := Line.text), hperm.mem_iff]
  dsimp only
  rw [hwhole]
  exact ⟨hstores.quiet_eq htexts hall, fun _ => Stores.mem_lines_of_mem htexts hall,
    hstores.ofTexts_eq_iff htexts hall, fun h => h ▸ mergesTo_of_collect hcollect⟩

/-- Two units that accept the same directive, one of them a `quiet` too. -/
theorem collect_eq_inMemory_of_two_units :
    let dir : FragmentDirectory := ⟨⟨"f"⟩⟩
    let line : Line := .member { owner := "a.B", name := "m" } .inline
    let calls : List (Bool × Line) := [(false, line), (true, .quietScope "p"), (true, line)]
    ∃ u set count, (start Bool dir (.inDirectory [])).acceptAll calls = some u ∧
      dir.collect u.files = .ok (set, count) ∧
      set = (Collector.inMemory.acceptAll (.inDirectory []) (calls.map Prod.snd)).1.commands := by
  intro dir line calls
  have hsome : ((start Bool dir (.inDirectory [])).acceptAll (calls ++ [])).isSome = true := by
    decide +kernel
  obtain ⟨last, hlast⟩ := Option.isSome_iff_exists.1 hsome
  obtain ⟨u, set, count, hu, hcollect, hall⟩ := collect_eq_inMemory_iff (by decide)
    (dir.hasNoFile_inDirectory []) (by decide +kernel) (List.cons_ne_nil _ _) hlast
  obtain ⟨-, -, hiff, -⟩ := hall (calls.map Prod.snd) (.inDirectory []) (List.Perm.refl _)
  exact ⟨u, set, count, hu, hcollect, hiff.2 (by decide +kernel)⟩

/-- With an empty path, fragments come to the working directory, but nothing can be collected. -/
theorem collect_fails_for_empty_path :
    let dir : FragmentDirectory := ⟨⟨""⟩⟩
    let line : Line := .quietScope "p"
    dir.HasNoFile (.inDirectory []) ∧ '\n' ∉ line.text.toList ∧ '\r' ∉ line.text.toList ∧
      ∃ u : Units Unit, (start Unit dir (.inDirectory [])).acceptAll [((), line)] = some u ∧
        dir.collect u.files = .error (.io ⟨""⟩) := by
  intro dir line
  have hrun : ((start Unit dir (.inDirectory [])).acceptAll [((), line)]).map
      (fun u => dir.collect u.files) = some (.error (.io ⟨""⟩)) := by decide +kernel
  exact ⟨dir.hasNoFile_inDirectory [], by decide, by decide, Option.map_eq_some_iff.1 hrun⟩

end Units

end CompilerHints
