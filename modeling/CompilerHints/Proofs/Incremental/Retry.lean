import CompilerHints.Proofs.Collector

/-!
# Accepting lines again

One collector of an incremental build goes through a history: it accepts lines, with or without
success, and in between the surroundings change, but what was kept stays. A line counts as
accepted from its first acceptance on, even if its fragment could not be written then, and is
passed over later.

* `History`: what a collector goes through.
* `firstOutcome?`: how the first acceptance of a text went.
* `Tied`: what a collector and the files have to do with a history.
* `History.tied`: that holds all along.
* `History.holds_iff`: when the fragment of a line is there after an acceptance that went well.
-/

namespace CompilerHints

open Text

/-- What a collector goes through, with the lines it was to accept and whether each acceptance went
well. The surroundings may do anything to the files, but fragments of these lines stay there. -/
inductive History (dir : FragmentDirectory) :
    Collector → FileSystem → List (Line × Bool) → Prop
  | start (fs : FileSystem) : History dir (.incremental dir) fs []
  | surroundings {c : Collector} {fs fs' : FileSystem} {calls : List (Line × Bool)}
      (h : History dir c fs calls)
      (hkept : ∀ call ∈ calls, dir.Holds fs call.1 → dir.Holds fs' call.1) :
      History dir c fs' calls
  | accept {c c' : Collector} {fs fs' : FileSystem} {calls : List (Line × Bool)} {line : Line}
      {result : Except Failure Bool} (h : History dir c fs calls)
      (haccept : c.accept line fs = (result, c', fs')) :
      History dir c' fs' (calls ++ [(line, result.isOk)])

/-- Whether the first acceptance of a text went well. -/
def firstOutcome? (calls : List (Line × Bool)) (text : String) : Option Bool :=
  calls.findSome? fun call => if call.1.text = text then some call.2 else none

theorem firstOutcome?_concat (calls : List (Line × Bool)) (call : Line × Bool) (text : String) :
    firstOutcome? (calls ++ [call]) text =
      (firstOutcome? calls text).or (if call.1.text = text then some call.2 else none) := by
  rw [firstOutcome?, List.findSome?_append, List.findSome?_singleton]
  rfl

theorem exists_of_firstOutcome?_eq_some {calls : List (Line × Bool)} {text : String} {ok : Bool}
    (h : firstOutcome? calls text = some ok) : ∃ call ∈ calls, call.1.text = text := by
  obtain ⟨call, hcall, h⟩ := List.exists_of_findSome?_eq_some h
  exact ⟨call, hcall, (Option.ite_none_right_eq_some.1 h).1⟩

theorem firstOutcome?_eq_none_iff {calls : List (Line × Bool)} {text : String} :
    firstOutcome? calls text = none ↔ ¬ ∃ call ∈ calls, call.1.text = text := by
  rw [firstOutcome?, List.findSome?_eq_none_iff]
  simp only [ite_eq_right_iff, reduceCtorEq, imp_false, not_exists, not_and]

/-- What a collector and the files have to do with a history. -/
structure Tied (dir : FragmentDirectory) (c : Collector) (fs : FileSystem)
    (calls : List (Line × Bool)) : Prop where
  fragments : c.fragments? = some dir
  commands : ∀ t, t ∈ c.commands.lines ↔ (∃ call ∈ calls, call.1.text = t) ∧ t ≠ quietText
  holds : ∀ line : Line, line.isQuiet = false → firstOutcome? calls line.text = some true →
    dir.Holds fs line

variable {dir : FragmentDirectory} {c c' : Collector} {fs fs' : FileSystem}
  {calls : List (Line × Bool)} {line : Line}

theorem Tied.start (dir : FragmentDirectory) (fs : FileSystem) :
    Tied dir (.incremental dir) fs [] where
  fragments := rfl
  commands t := by
    simp [Collector.incremental, CommandSet.empty]
  holds _ _ h := by cases h

/-- A text that is in the set was accepted before, and its first acceptance had an outcome. -/
theorem Tied.mem_lines_iff (h : Tied dir c fs calls) (hquiet : line.isQuiet = false) :
    line.text ∈ c.commands.lines ↔ firstOutcome? calls line.text ≠ none := by
  rw [h.commands, and_iff_left (Line.text_ne_quietText hquiet), Ne, firstOutcome?_eq_none_iff,
    not_not]

theorem Tied.surroundings (h : Tied dir c fs calls)
    (hkept : ∀ call ∈ calls, dir.Holds fs call.1 → dir.Holds fs' call.1) :
    Tied dir c fs' calls where
  fragments := h.fragments
  commands := h.commands
  holds line hquiet hfirst := by
    obtain ⟨call, hcall, htext⟩ := exists_of_firstOutcome?_eq_some hfirst
    have hsame (fs : FileSystem) : dir.Holds fs line ↔ dir.Holds fs call.1 :=
      FragmentDirectory.holds_congr hquiet htext.symm fs
    exact (hsame fs').2 (hkept call hcall ((hsame fs).1 (h.holds line hquiet hfirst)))

/-- One acceptance: a fragment that is there could be overwritten only by a line of the same text,
but that line would be passed over. -/
theorem Tied.accept {result : Except Failure Bool} (h : Tied dir c fs calls)
    (hnames : NamesTellTexts ((calls ++ [(line, result.isOk)]).map Prod.fst))
    (haccept : c.accept line fs = (result, c', fs')) :
    Tied dir c' fs' (calls ++ [(line, result.isOk)]) := by
  obtain ⟨rfl, hcases⟩ := Collector.accept_incremental h.fragments haccept
  refine ⟨h.fragments, fun t => ?_, fun other hquiet hfirst => ?_⟩
  · simp only [Collector.mem_lines_record, h.commands, List.map_singleton, List.mem_singleton,
      List.mem_append, or_and_right, exists_or, exists_eq_left, eq_comm (a := t)]
  · rw [firstOutcome?_concat, Option.or_eq_some_iff] at hfirst
    rcases hfirst with hfirst | ⟨hnew, hfirst⟩
    · -- the first acceptance of the text was before this one
      have hholds := h.holds other hquiet hfirst
      have hold := (h.mem_lines_iff hquiet).2 (by rw [hfirst]; exact Option.some_ne_none true)
      rcases hcases with ⟨-, -, -, rfl⟩ | ⟨hfresh, hwrite⟩
      · exact hholds
      · have hname : other.fragmentName ≠ line.fragmentName := by
          intro e
          obtain ⟨call, hcall, htext⟩ := exists_of_firstOutcome?_eq_some hfirst
          have hcallName := Line.fragmentName_of_text_eq hquiet htext.symm
          have hmem : call.1 ∈ (calls ++ [(line, result.isOk)]).map Prod.fst :=
            List.mem_map_of_mem (List.mem_append_left _ hcall)
          have hline : other.text = line.text := htext.symm.trans <|
            hnames call.1 hmem line (by simp) (hcallName.symm.trans e)
          rw [Line.isQuiet_eq_of_text_eq hline] at hquiet
          exact hfresh hquiet (hline ▸ hold)
        rcases hwrite with ⟨p, isNew, hwrite, -⟩ | ⟨failure, hwrite, -⟩
        · exact hholds.of_write hwrite hname
        · exact hholds.of_write hwrite hname
    · -- this is the first acceptance of the text, so it was not passed over
      obtain ⟨htext, hok⟩ := Option.ite_none_right_eq_some.1 hfirst
      rw [FragmentDirectory.holds_congr hquiet htext.symm]
      rw [← Line.isQuiet_eq_of_text_eq htext] at hquiet
      rcases hcases with ⟨-, hold, -, -⟩ | ⟨-, ⟨p, isNew, hwrite, -⟩ | ⟨failure, -, rfl⟩⟩
      · rw [← htext] at hnew
        exact absurd hnew ((h.mem_lines_iff hquiet).1 hold)
      · exact FragmentDirectory.holds_of_write hwrite
      · cases hok

/-- What a collector and the files have to do with a history holds all along. -/
theorem History.tied (h : History dir c fs calls) (hnames : NamesTellTexts (calls.map Prod.fst)) :
    Tied dir c fs calls := by
  induction h with
  | start fs => exact .start dir fs
  | surroundings _ hkept ih => exact (ih hnames).surroundings hkept
  | accept _ haccept ih =>
    refine (ih fun a ha b hb => hnames a ?_ b ?_).accept hnames haccept
    · exact List.map_append ▸ List.mem_append_left _ ha
    · exact List.map_append ▸ List.mem_append_left _ hb

/-- After an acceptance that went well, the fragment of the line is there, unless the first
acceptance of this text had failed: then it is there only if it was there before. -/
theorem History.holds_iff (h : History dir c fs calls)
    (hnames : NamesTellTexts (calls.map Prod.fst ++ [line])) {isNew : Bool}
    (haccept : c.accept line fs = (.ok isNew, c', fs')) :
    dir.Holds fs' line ↔
      (line.isQuiet = false → firstOutcome? calls line.text = some false → dir.Holds fs line) := by
  have htied := h.tied fun a ha b hb =>
    hnames a (List.mem_append_left _ ha) b (List.mem_append_left _ hb)
  obtain ⟨-, ⟨hquiet, hold, -, rfl⟩ | ⟨hfresh, ⟨p, _, hwrite, -⟩ | ⟨failure, -, e⟩⟩⟩ :=
    Collector.accept_incremental htied.fragments haccept
  · -- passed over: the fragment is there if the first acceptance put it there
    refine ⟨fun hholds _ _ => hholds, fun hmissed => ?_⟩
    obtain ⟨ok, hfirst⟩ := Option.ne_none_iff_exists'.1 ((htied.mem_lines_iff hquiet).1 hold)
    cases ok with
    | true => exact htied.holds line hquiet hfirst
    | false => exact hmissed hquiet hfirst
  · -- written: then there was no first acceptance, or the line is `quiet`
    refine iff_of_true (FragmentDirectory.holds_of_write hwrite) fun hquiet hfirst => ?_
    have hnew := mt (htied.mem_lines_iff hquiet).2 (hfresh hquiet)
    exact absurd (by rw [hfirst]; exact Option.some_ne_none false) hnew
  · cases e

/-- A file in the place of the directory makes an acceptance fail. When it is out of the way, the
same line is accepted without fail, and still there is no fragment. -/
theorem not_holds_of_acceptance_after_failure :
    let dir : FragmentDirectory := ⟨⟨"f"⟩⟩
    let line : Line := .member { owner := "a.B", name := "m" } .inline
    ∃ c c' fs fs' calls, History dir c fs calls ∧ NamesTellTexts (calls.map Prod.fst ++ [line]) ∧
      c.accept line fs = (.ok false, c', fs') ∧ ¬ dir.Holds fs' line := by
  intro dir line
  let blocked := (FileSystem.inDirectory []).put ["f"] (.file [])
  let c := (Collector.incremental dir).record [line]
  have hfailed : (Collector.incremental dir).accept line blocked =
      (.error (.io ⟨"f"⟩), c, blocked) := by decide +kernel
  have hblocked : ¬ dir.Holds blocked line := by decide +kernel
  have hfree : ¬ dir.Holds (.inDirectory []) line := by decide +kernel
  have hretried : c.accept line (.inDirectory []) =
      (.ok false, c.record [line], .inDirectory []) := by decide +kernel
  have hhistory : History dir c (.inDirectory []) [(line, false)] := by
    refine .surroundings (.accept (.start blocked) hfailed) fun call hcall hholds => ?_
    rw [List.mem_singleton.1 hcall] at hholds
    exact absurd hholds hblocked
  have hnames : NamesTellTexts [line, line] := by simp [NamesTellTexts]
  refine ⟨c, _, _, _, _, hhistory, hnames, hretried, fun hholds => hfree ?_⟩
  exact (hhistory.holds_iff hnames hretried).1 hholds rfl (by simp [firstOutcome?])

end CompilerHints
