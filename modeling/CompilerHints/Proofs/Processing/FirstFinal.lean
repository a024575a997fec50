import CompilerHints.Proofs.AllOrNothing
import CompilerHints.Proofs.Processing.LifeCycle

/-!
# Rounds behind the final one

A run goes through its rounds up to the first final one, where it writes the artifact. If rounds
follow, the first of them is refused, and the run ends without a report; the artifact stays, and
nothing of those rounds is noticed.

* `Round.untilFinal`: the rounds up to the first final one.
* `Session.run_eq_run_untilFinal`: a run over all rounds, and over those.
* `Session.runEvents`, `Session.WritesOnce`: the calls of a run, of which one writes the artifact.
* `Session.LeavesArtifact`: what a run leaves of the rounds that it takes.
* `Session.endsAtFirstFinal`: how a run ends whose artifact can be written.
-/

namespace CompilerHints

open Text

/-- The rounds up to the first final one, or all of them if there is none. -/
def Round.untilFinal : List Round → List Round
  | [] => []
  | round :: rest => round :: if round.isFinal then [] else untilFinal rest

/-- The lines of the artifact of rounds. -/
def artifactLines (rounds : List Round) : List String :=
  (CommandSet.ofTexts (acceptedTexts rounds)).finalize

/-- An artifact is written where the charset has its characters and a file can be written. -/
theorem exists_writeArtifact_eq_ok {path : Path} {lines : List String} {charset : Charset}
    {fs : FileSystem} (hencode : ∀ c ∈ (renderArtifact lines).toList, charset.Represents c)
    (hwrite : fs.canWrite path = true) :
    ∃ fs', writeArtifact path lines charset fs = (.ok (charset.lineBytes lines).length, fs') ∧
      fs'.read? path = some (charset.lineBytes lines) := by
  obtain ⟨fs', hwritten, hoverwrites⟩ :=
    overwrites_of_canWrite hwrite (charset.lineBytes lines)
  refine ⟨fs', ?_, hoverwrites.read⟩
  rw [← hwritten]
  exact writeArtifact_of_encode_eq_ok
    (Charset.encode_eq_ok_iff.2 ⟨hencode, (charset.flatMap_charBytes_renderArtifact lines).symm⟩) fs

namespace Session

open Round (untilFinal)

variable {s t : Session} {round : Round} {rounds rest : List Round} {path : Path}
  {charset : Charset} {lines : List String} {fs fs' : FileSystem}

/-! ### The first final round -/

theorem onlyLastIsFinal_cons_iff (hmore : round.isFinal = false) :
    OnlyLastIsFinal (round :: rest) ↔ OnlyLastIsFinal rest := by
  refine ⟨OnlyLastIsFinal.tail, fun h => ?_⟩
  cases rest with
  | nil => exact fun _ hmem => absurd hmem List.not_mem_nil
  | cons next rest => exact List.forall_mem_cons.2 ⟨hmore, h⟩

theorem onlyLastIsFinal_singleton (round : Round) : OnlyLastIsFinal [round] :=
  fun _ hmem => absurd hmem List.not_mem_nil

theorem onlyLastIsFinal_untilFinal (rounds : List Round) : OnlyLastIsFinal (untilFinal rounds) := by
  induction rounds with
  | nil => exact fun _ hmem => absurd hmem List.not_mem_nil
  | cons round rest ih =>
    unfold untilFinal
    cases hfinal : round.isFinal with
    | true => exact onlyLastIsFinal_singleton round
    | false => exact (onlyLastIsFinal_cons_iff hfinal).2 ih

/-- Nothing is left out if only the last round may be final. -/
theorem OnlyLastIsFinal.untilFinal_eq (h : OnlyLastIsFinal rounds) :
    untilFinal rounds = rounds := by
  induction rounds with
  | nil => rfl
  | cons round rest ih =>
    unfold untilFinal
    cases hfinal : round.isFinal with
    | true =>
      rw [h.eq_nil hfinal]
      rfl
    | false => exact congrArg (round :: ·) (ih h.tail)

/-- A run is over with its report, and what follows is refused. -/
theorem runFrom_of_reported {report : Report} (hclosed : s.processor.finished = true)
    (rounds : List Round) :
    s.runFrom (some report) rounds =
      (if rounds = [] then .ok report else .error (.input .roundAfterEnd), s) := by
  cases rounds with
  | nil => rfl
  | cons round rest =>
    rw [runFrom, process_of_finished hclosed]
    rfl

/-- What becomes of a run is decided by the rounds up to the first final one; if there are more, a
report is withheld. -/
theorem run_eq_run_untilFinal (hopen : s.processor.finished = false) (rounds : List Round) :
    s.run rounds =
      match s.run (untilFinal rounds) with
      | (.ok report, t) =>
        (if OnlyLastIsFinal rounds then .ok report else .error (.input .roundAfterEnd), t)
      | (.error failure, t) => (.error failure, t) := by
  unfold run
  induction rounds generalizing s with
  | nil =>
    rw [untilFinal]
    split
    · next h => exact h
    · next h => exact h
  | cons round rest ih =>
    rw [untilFinal, runFrom, runFrom]
    cases hprocess : s.process round with
    | mk result u =>
      cases Takes.of_process_eq hprocess with
      | refused _ => rfl
      | aborted _ _ => rfl
      | unwritten _ _ _ _ => rfl
      | continued _ hcarry hfinal =>
        have hopen' := finished_carryOut s round.verdicts
        rw [hcarry, hopen] at hopen'
        simp only [hfinal, Bool.false_eq_true, if_false, onlyLastIsFinal_cons_iff hfinal]
        exact ih hopen'
      | reported hopen hcarry hfinal hconclude =>
        have hclosed := (Takes.reported hopen hcarry hfinal hconclude).of_report.2
        have hlast : OnlyLastIsFinal (round :: rest) ↔ rest = [] := by
          refine ⟨fun h => h.eq_nil hfinal, ?_⟩
          rintro rfl
          exact onlyLastIsFinal_singleton round
        simp only [hfinal, if_true, runFrom_of_reported hclosed, hlast]

/-- To finish a run is to add the final round without elements. -/
theorem run_eq_run_append_over (hopen : s.processor.finished = false)
    (hnone : ∀ round ∈ rounds, round.isFinal = false) :
    s.run rounds = s.run (rounds ++ [.over]) := by
  have hrounds : OnlyLastIsFinal rounds := fun round hround =>
    hnone round (List.dropLast_subset rounds hround)
  have hover : OnlyLastIsFinal (rounds ++ [.over]) := by
    rw [OnlyLastIsFinal, List.dropLast_concat]
    exact hnone
  have hverdicts :
      (rounds ++ [Round.over]).flatMap Round.verdicts = rounds.flatMap Round.verdicts := by
    rw [List.flatMap_append, List.flatMap_singleton]
    exact List.append_nil _
  rw [run_eq_carryOut hopen hrounds, run_eq_carryOut hopen hover, hverdicts]

/-! ### The calls of a run -/

/-- One call of a session. -/
def event (s : Session) (c : Call) : Event :=
  s.processor.event ⟨c, s.sink, s.files⟩

/-- What is known of a call is known of its event. -/
theorem event_of_call {c : Call} {result : Except Failure (Option Report)}
    (h : s.call c = (result, t)) :
    (s.event c).result = result ∧ (s.event c).before = s ∧ (s.event c).after = t :=
  ⟨congrArg Prod.fst h, rfl, congrArg Prod.snd h⟩

/-- The calls of a run, given the report of the round before, if it gave one. -/
def runEvents (s : Session) (last : Option Report) : List Round → List Event
  | [] =>
    match last with
    | some _ => []
    | none => [s.event .finish]
  | round :: rest =>
    s.event (.process round) ::
      match s.process round with
      | (.ok report?, t) => t.runEvents report? rest
      | (.error _, _) => []

/-- What the last call leaves is what the run leaves. -/
theorem after_getLast?_runEvents (s : Session) (last : Option Report) (rounds : List Round) :
    ((s.runEvents last rounds).getLast?.map Event.after).getD s = (s.runFrom last rounds).2 := by
  induction rounds generalizing s last with
  | nil => cases last <;> rfl
  | cons round rest ih =>
    have hafter : (s.event (.process round)).after = (s.process round).2 := rfl
    have hlast (events : List Event) (e : Event) :
        ((e :: events).getLast?.map Event.after).getD s =
          (events.getLast?.map Event.after).getD e.after := by
      rw [List.getLast?_cons]
      cases events.getLast? <;> rfl
    rw [runEvents, runFrom, hlast, hafter]
    cases s.process round with
    | mk result t =>
      cases result with
      | ok report? => exact ih t report?
      | error failure => rfl

/-- Calls of which one writes an artifact. The calls before it go well and touch no file, and those
behind it are refused and change nothing. -/
inductive WritesOnce (path : Path) (lines : List String) (charset : Charset) (fs' : FileSystem) :
    FileSystem → List Event → Prop
  | continued {fs : FileSystem} {e : Event} {events : List Event} (hresult : e.result = .ok none)
      (hbefore : e.before.files = fs) (hafter : e.after.files = fs)
      (hrest : WritesOnce path lines charset fs' fs events) :
      WritesOnce path lines charset fs' fs (e :: events)
  | written {fs : FileSystem} {e : Event} {events : List Event} {report : Report} {n : Nat}
      (hresult : e.result = .ok (some report)) (hbefore : e.before.files = fs)
      (hwrite : writeArtifact path lines charset fs = (.ok n, fs')) (hafter : e.after.files = fs')
      (hrefused : ∀ f ∈ events,
        f.result = .error (.input .roundAfterEnd) ∧ f.before = e.after ∧ f.after = e.after) :
      WritesOnce path lines charset fs' fs (e :: events)

/-- Nothing but a refusal comes after a report. -/
theorem refused_of_mem_runEvents {report : Report} (hclosed : s.processor.finished = true)
    {f : Event} (hf : f ∈ s.runEvents (some report) rounds) :
    f.result = .error (.input .roundAfterEnd) ∧ f.before = s ∧ f.after = s := by
  cases rounds with
  | nil => cases hf
  | cons round rest =>
    have hprocess := process_of_finished hclosed round
    rw [runEvents, hprocess, List.mem_singleton] at hf
    rw [hf]
    exact event_of_call hprocess

/-- A session with an artifact that can be written writes it. -/
theorem conclude_of_writeArtifact {n : Nat} (hdest : s.processor.output = ⟨.artifact path, charset⟩)
    (hwrite : writeArtifact path s.processor.collector.commands.finalize charset s.files =
      (.ok n, fs')) :
    ∃ report, s.conclude = (.ok report, { s with files := fs' }) := by
  unfold conclude
  rw [hdest]
  dsimp only
  rw [hwrite]
  exact ⟨_, rfl⟩

/-- The final round of a run in memory writes the artifact. -/
theorem process_of_writeArtifact {n : Nat} (hmem : s.KeepsInMemory)
    (hopen : s.processor.finished = false) (hfinal : round.isFinal = true)
    (hdest : s.processor.output = ⟨.artifact path, charset⟩)
    (hwrite : writeArtifact path
        (s.record round.verdicts).processor.collector.commands.finalize charset s.files =
      (.ok n, fs')) :
    ∃ report, s.process round =
      (.ok (some report), { (s.record round.verdicts).markFinished with files := fs' }) := by
  obtain ⟨report, hconclude⟩ :=
    conclude_of_writeArtifact (s := (s.record round.verdicts).markFinished) hdest hwrite
  exact ⟨report, by rw [process_inMemory hmem hopen, if_pos hfinal, hconclude]⟩

/-- A run in memory writes the lines of the rounds up to the first final one, and once. -/
theorem writesOnce_runEvents {n : Nat} (hmem : s.KeepsInMemory)
    (hopen : s.processor.finished = false) (hdest : s.processor.output = ⟨.artifact path, charset⟩)
    (hlines : lines = (s.record
      ((untilFinal rounds).flatMap Round.verdicts)).processor.collector.commands.finalize)
    (hwrite : writeArtifact path lines charset s.files = (.ok n, fs')) :
    WritesOnce path lines charset fs' s.files (s.runEvents none rounds) := by
  induction rounds generalizing s with
  | nil =>
    subst hlines
    obtain ⟨report, hconclude⟩ := conclude_of_writeArtifact (s := s.markFinished) hdest hwrite
    have hcall : s.call .finish = (.ok (some report), { s.markFinished with files := fs' }) := by
      rw [call, finish_eq_conclude hopen, hconclude]
      rfl
    obtain ⟨hresult, hbefore, hafter⟩ := event_of_call hcall
    exact .written hresult (by rw [hbefore]) hwrite (by rw [hafter]) (List.forall_mem_nil _)
  | cons round rest ih =>
    rw [runEvents]
    rw [untilFinal, List.flatMap_cons, record_append] at hlines
    cases hfinal : round.isFinal with
    | true =>
      rw [hfinal, if_pos rfl] at hlines
      subst hlines
      obtain ⟨report, hprocess⟩ := process_of_writeArtifact hmem hopen hfinal hdest hwrite
      obtain ⟨hresult, hbefore, hafter⟩ := event_of_call (c := .process round) hprocess
      rw [hprocess]
      refine .written hresult (by rw [hbefore]) hwrite (by rw [hafter]) fun f hf => ?_
      rw [hafter]
      exact refused_of_mem_runEvents rfl hf
    | false =>
      have hprocess : s.process round = (.ok none, s.record round.verdicts) := by
        rw [process_inMemory hmem hopen, hfinal]
        rfl
      obtain ⟨hresult, hbefore, hafter⟩ := event_of_call (c := .process round) hprocess
      rw [hfinal, if_neg Bool.false_ne_true] at hlines
      rw [hprocess]
      exact .continued hresult (by rw [hbefore]) (by rw [hafter]; rfl)
        (ih (s := s.record round.verdicts) hmem hopen hdest hlines hwrite)

/-! ### What a run leaves -/

/-- What a run leaves of rounds that it takes to their end. -/
structure LeavesArtifact (s : Session) (path : Path) (charset : Charset) (taken : List Round)
    (events : List Event) (t : Session) : Prop where
  finished : t.processor.finished = true
  /-- The lines and the diagnostics of these rounds are recorded, and no others. -/
  recorded : s.Recorded (taken.flatMap Round.verdicts) t
  /-- The artifact holds the lines of these rounds, and no others. -/
  artifact : t.files.read? path = some (charset.lineBytes (artifactLines taken))
  last : (events.getLast?.map Event.after).getD s = t
  once : WritesOnce path (artifactLines taken) charset t.files s.files events

/-- How a run ends that keeps its lines in memory and can write its artifact. -/
structure EndsAtFirstFinal (s : Session) (path : Path) (charset : Charset) (rounds : List Round) :
    Prop where
  /-- There is a report exactly if no round before the last one is final. -/
  reported_iff : (∃ report, (s.run rounds).1 = .ok report) ↔ OnlyLastIsFinal rounds
  complete : OnlyLastIsFinal rounds →
    s.LeavesArtifact path charset rounds (s.runEvents none rounds) (s.run rounds).2
  /-- Where no round is final, the run might as well end with a final round without elements. -/
  unflagged : (∀ round ∈ rounds, round.isFinal = false) → s.run rounds = s.run (rounds ++ [.over])
  /-- Otherwise the rounds behind the first final one are refused. -/
  refused : ¬ OnlyLastIsFinal rounds →
    (s.run rounds).1 = .error (.input .roundAfterEnd) ∧
      s.LeavesArtifact path charset (untilFinal rounds) (s.runEvents none rounds) (s.run rounds).2

/-- A run takes its rounds up to the first final one and writes their artifact, if that can be
encoded and written. It ends with a report if these are all of its rounds. -/
theorem endsAtFirstFinal {sink : Sink}
    (hencode : ∀ c ∈ (renderArtifact (artifactLines (untilFinal rounds))).toList,
      charset.Represents c)
    (hwrite : fs.canWrite path = true) :
    EndsAtFirstFinal { start ⟨.artifact path, charset⟩ fs with sink := sink } path charset
      rounds := by
  set s : Session := { start ⟨.artifact path, charset⟩ fs with sink := sink } with hs
  have hmem : s.KeepsInMemory := rfl
  have hopen : s.processor.finished = false := rfl
  obtain ⟨fs', hwritten, hread⟩ := exists_writeArtifact_eq_ok hencode hwrite
  obtain ⟨report, hconclude⟩ := conclude_of_writeArtifact
    (s := (s.record ((untilFinal rounds).flatMap Round.verdicts)).markFinished) rfl hwritten
  have huntil : s.run (untilFinal rounds) = (.ok report, _) :=
    (run_eq_conclude hmem hopen (onlyLastIsFinal_untilFinal rounds)).trans hconclude
  have hrun := run_eq_run_untilFinal hopen rounds
  rw [huntil] at hrun
  have hleaves : s.LeavesArtifact path charset (untilFinal rounds) (s.runEvents none rounds)
      (s.run rounds).2 := by
    have hlast := after_getLast?_runEvents s none rounds
    rw [← run, hrun] at hlast
    rw [hrun]
    exact ⟨rfl, ⟨rfl, rfl, rfl⟩, hread, hlast, writesOnce_runEvents hmem hopen rfl rfl hwritten⟩
  refine ⟨?_, fun h => ?_, run_eq_run_append_over hopen, fun h => ⟨?_, hleaves⟩⟩
  · rw [hrun]
    by_cases h : OnlyLastIsFinal rounds <;> simp [h]
  · rwa [h.untilFinal_eq] at hleaves
  · rw [hrun]
    exact if_neg h

/-- The second of three rounds is final: the third one is refused with its line and its error, and
the sink keeps what was in it. -/
theorem endsAtFirstFinal_of_three_rounds :
    let method : Element := .method { owner := "a.B", name := "m" }
    let rounds : List Round :=
      [{ elements := [⟨method, [.single .log]⟩] },
        { elements := [⟨method, [.single .inline, .single .inline]⟩], isFinal := true },
        { elements := [⟨method, [.single .print]⟩, ⟨.field "a.B" "f", [.single .print]⟩] }]
    let sink := Sink.empty.emit { severity := .note, code := ⟨.note, 1⟩, message := "before" }
    let s : Session :=
      { start ⟨.artifact ⟨"d/o"⟩, .usAscii⟩ (.inDirectory []) with sink := sink }
    ¬ OnlyLastIsFinal rounds ∧ s.EndsAtFirstFinal ⟨"d/o"⟩ .usAscii rounds ∧
      artifactLines (untilFinal rounds) = ["inline a.B::m ()V", "log a.B::m ()V"] ∧
      (s.run rounds).2.sink.diagnostics.length = 2 := by
  intro method rounds sink s
  refine ⟨by decide, endsAtFirstFinal ?_ (by decide +kernel), by decide +kernel,
    by decide +kernel⟩
  simp only [Charset.represents_iff, ← List.all_eq_true]
  decide +kernel

end Session

end CompilerHints
