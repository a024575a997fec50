import CompilerHints.Collector
import CompilerHints.Proofs.FragmentDirectory

/-!
# What collectors do with a line

A line is put into the set of a collector whatever else happens. In an incremental build it is then
kept in a fragment, unless it is no `quiet` and was in the set before.

* `Collector.record`: a collector with lines put into its set.
* `Collector.accept_inMemory`, `Collector.accept_incremental`: taking a line, in both kinds of
  builds.
* `Collector.collector_accept`: what both kinds have in common.
* `Collector.acceptAll_inMemory`: taking many lines in memory.
-/

namespace CompilerHints

namespace Collector

/-- A collector with lines put into its set. -/
def record (c : Collector) (lines : List Line) : Collector :=
  { c with
    commands := c.commands.insertTexts (lines.map Line.text)
    accepted := c.accepted + lines.length }

theorem mem_lines_record {c : Collector} {lines : List Line} {t : String} :
    t ∈ (c.record lines).commands.lines ↔
      t ∈ c.commands.lines ∨ (t ∈ lines.map Line.text ∧ t ≠ quietText) :=
  CommandSet.mem_lines_insertTexts

theorem accept_inMemory {c : Collector} (h : c.fragments? = none) (line : Line)
    (fs : FileSystem) :
    c.accept line fs = (.ok (c.commands.insertText line.text).1, c.record [line], fs) := by
  simp only [accept, h, record, CommandSet.insert_eq_insertText]
  rfl

/-- A collector and the files after lines that were taken one after the other. -/
def acceptAll (c : Collector) (fs : FileSystem) : List Line → Collector × FileSystem
  | [] => (c, fs)
  | line :: rest =>
    let (_, c, fs) := c.accept line fs
    c.acceptAll fs rest

theorem acceptAll_inMemory {c : Collector} (h : c.fragments? = none) (fs : FileSystem)
    (lines : List Line) : c.acceptAll fs lines = (c.record lines, fs) := by
  induction lines generalizing c with
  | nil => rfl
  | cons line rest ih =>
    have hrecord : (c.record [line]).record rest = c.record (line :: rest) := by
      simp only [record, List.map_cons, List.map_nil, CommandSet.insertTexts_cons,
        CommandSet.insertTexts_nil, List.length_cons, List.length_nil, Nat.zero_add, Nat.add_assoc,
        Nat.add_comm 1]
    rw [acceptAll, accept_inMemory h]
    dsimp only
    rw [ih (c := c.record [line]) h, hrecord]

/-- In an incremental build a line is passed over only if it is no `quiet` and was taken before. -/
theorem accept_incremental {c c' : Collector} {dir : FragmentDirectory} {line : Line}
    {fs fs' : FileSystem} {result : Except Failure Bool} (hdir : c.fragments? = some dir)
    (h : c.accept line fs = (result, c', fs')) :
    c' = c.record [line] ∧
      ((line.isQuiet = false ∧ line.text ∈ c.commands.lines ∧ result = .ok false ∧ fs' = fs) ∨
        (line.isQuiet = false → line.text ∉ c.commands.lines) ∧
          ((∃ p isNew, dir.write line fs = (.ok p, fs') ∧ result = .ok isNew) ∨
            ∃ failure, dir.write line fs = (.error failure, fs') ∧ result = .error failure)) := by
  have hrecord : c.record [line] =
      ⟨(c.commands.insertText line.text).2, some dir, c.accepted + 1⟩ := by
    rw [record, hdir]
    rfl
  simp only [accept, hdir, CommandSet.insert_eq_insertText, ← hrecord] at h
  split at h
  · next hwritten =>
    -- a line other than `quiet` gets here only if it is new
    have hfresh (hquiet : line.isQuiet = false) : line.text ∉ c.commands.lines := by
      rw [hquiet, Bool.or_false] at hwritten
      rw [← CommandSet.insertText_fst_eq_false_iff (Line.text_ne_quietText hquiet), hwritten]
      exact Bool.false_ne_true.symm
    split at h
    · next p _ hwrite =>
      obtain ⟨rfl, hc, rfl⟩ := Prod.mk.inj h |>.imp_right Prod.mk.inj
      exact ⟨hc.symm, .inr ⟨hfresh, .inl ⟨p, _, hwrite, rfl⟩⟩⟩
    · next failure _ hwrite =>
      obtain ⟨rfl, hc, rfl⟩ := Prod.mk.inj h |>.imp_right Prod.mk.inj
      exact ⟨hc.symm, .inr ⟨hfresh, .inr ⟨failure, hwrite, rfl⟩⟩⟩
  · next hskipped =>
    rw [Bool.or_eq_true, not_or, Bool.not_eq_true, Bool.not_eq_true] at hskipped
    obtain ⟨hold, hquiet⟩ := hskipped
    obtain ⟨rfl, hc, rfl⟩ := Prod.mk.inj h |>.imp_right Prod.mk.inj
    refine ⟨hc.symm, .inl ⟨hquiet, ?_, by rw [hold], rfl⟩⟩
    exact (CommandSet.insertText_fst_eq_false_iff (Line.text_ne_quietText hquiet)).1 hold

/-- In both kinds of builds a line is put into the set, also where its fragment cannot be
written. -/
theorem collector_accept (c : Collector) (line : Line) (fs : FileSystem) :
    (c.accept line fs).2.1 = c.record [line] := by
  cases hdir : c.fragments? with
  | none => rw [accept_inMemory hdir]
  | some dir => exact (accept_incremental hdir rfl).1

end Collector

end CompilerHints
