import CompilerHints.Proofs.Artifact
import CompilerHints.Proofs.Processing.Steps

/-!
# The life of a processor

A processor is called with rounds, and to finish, in any order and any number of times, and between
the calls the diagnostics and the files may change in any way. It is finished by the first final
round whose verdicts can all be carried out, whether or not the artifact can then be written, and
from there on it refuses everything.

* `Call`, `Session.call`, `Session.takes_call`: a call and what becomes of it.
* `Event`, `Processor.events`: the calls of a history, each with the sessions before and after it.
* `Event.Finishes`: the calls that can finish a processor.
* `Processor.isLifeCycle_events`: what holds in every history.
-/

namespace CompilerHints

/-! ### Calls -/

/-- A call of a processor. -/
inductive Call where
  | process (round : Round)
  | finish
deriving DecidableEq, Repr

/-- The round that a call brings. -/
def Call.round : Call → Round
  | process round => round
  | finish => .over

namespace Session

variable {s t : Session} {round : Round} {result : Except Failure (Option Report)}

/-- What becomes of a call. -/
def call (s : Session) : Call → Except Failure (Option Report) × Session
  | .process round => s.process round
  | .finish => (s.finish.1.map some, s.finish.2)

theorem takes_call (s : Session) (c : Call) : s.Takes c.round (s.call c).1 (s.call c).2 := by
  cases c with
  | process round => exact takes_process s round
  | finish => exact takes_finish s

/-! ### Failures -/

theorem exists_io_of_collect {line : Line} {failure : Failure}
    (h : s.collect line = (.error failure, t)) : ∃ refused, failure = .io refused := by
  cases haccept : s.processor.collector.accept line s.files with
  | mk result rest =>
    have hresult : result = .error failure := by
      rw [collect, haccept] at h
      exact (Prod.mk.inj h).1
    cases hdir : s.processor.collector.fragments? with
    | none =>
      rw [Collector.accept_inMemory hdir, hresult] at haccept
      cases haccept
    | some dir =>
      obtain ⟨-, ⟨-, -, hok, -⟩ | ⟨-, ⟨_, _, -, hok⟩ | ⟨failure', hwrite, herror⟩⟩⟩ :=
        Collector.accept_incremental hdir haccept
      · cases hresult.symm.trans hok
      · cases hresult.symm.trans hok
      · cases hresult.symm.trans herror
        exact FragmentDirectory.exists_io_of_write hwrite

/-- Verdicts cannot be carried out only where the file system refuses something. -/
theorem exists_io_of_carryOut {verdicts : List Verdict} {failure : Failure}
    (h : s.carryOut verdicts = (.error failure, t)) : ∃ refused, failure = .io refused := by
  induction verdicts generalizing s with
  | nil => cases h
  | cons v rest ih =>
    cases v with
    | rejected error => exact ih h
    | accepted warning? line =>
      rw [carryOut] at h
      cases hcollect : (warning?.elim s s.emit).collect line with
      | mk result u =>
        rw [hcollect] at h
        cases result with
        | ok _ => exact ih h
        | error _ =>
          cases h
          exact exists_io_of_collect hcollect

theorem ne_input_of_conclude {failure : Failure} (h : s.conclude = (.error failure, t))
    (problem : InputProblem) : failure ≠ .input problem := by
  unfold conclude at h
  dsimp only at h
  split at h
  · cases h
  · split at h
    · cases h
    · next hwrite =>
      cases h
      exact ne_input_of_writeArtifact hwrite problem

/-! ### One call -/

/-- Whether a round is final and its verdicts can all be carried out. -/
def CanFinish (s : Session) (round : Round) : Prop :=
  round.isFinal = true ∧ (s.carryOut round.verdicts).1 = .ok ()

namespace Takes

/-- A round finishes a processor exactly if it is final and goes well up to its end. -/
theorem finished_iff (h : s.Takes round result t) :
    t.processor.finished = true ↔ s.processor.finished = true ∨ s.CanFinish round := by
  have hcarried {u : Session} {result : Except Failure Unit}
      (hcarry : s.carryOut round.verdicts = (result, u)) :
      u.processor.finished = s.processor.finished := by
    rw [← finished_carryOut s round.verdicts, hcarry]
  have hconcluded {u : Session} {result : Except Failure Report}
      (hconclude : u.markFinished.conclude = (result, t)) : t.processor.finished = true := by
    rw [(conclude_files_only hconclude).1]
    rfl
  cases h with
  | refused hclosed => exact iff_of_true hclosed (.inl hclosed)
  | aborted hopen hcarry =>
    rw [hcarried hcarry, CanFinish, hcarry]
    simp
  | continued hopen hcarry hfinal =>
    rw [hcarried hcarry, CanFinish, hfinal]
    simp
  | reported hopen hcarry hfinal hconclude =>
    exact iff_of_true (hconcluded hconclude) (.inr ⟨hfinal, by rw [hcarry]⟩)
  | unwritten hopen hcarry hfinal hconclude =>
    exact iff_of_true (hconcluded hconclude) (.inr ⟨hfinal, by rw [hcarry]⟩)

/-- A report is given by the call that finishes a processor. -/
theorem of_report {report : Report} (h : s.Takes round (.ok (some report)) t) :
    s.processor.finished = false ∧ t.processor.finished = true := by
  have hafter := h.finished_iff
  cases h with
  | reported hopen hcarry hfinal _ =>
    exact ⟨hopen, hafter.2 (.inr ⟨hfinal, by rw [hcarry]⟩)⟩

/-- The final round gives a report or fails. -/
theorem ne_none_of_isFinal (h : s.Takes round result t) (hfinal : round.isFinal = true) :
    result ≠ .ok none := by
  rintro rfl
  cases h with
  | continued _ _ hmore =>
    rw [hfinal] at hmore
    cases hmore

theorem ne_noReport (h : s.Takes round result t) : result ≠ .error (.input .noReport) := by
  rintro rfl
  cases h with
  | aborted _ hcarry =>
    obtain ⟨refused, hrefused⟩ := exists_io_of_carryOut hcarry
    cases hrefused
  | unwritten _ _ _ hconclude => exact ne_input_of_conclude hconclude _ rfl

/-- As long as a processor keeps everything in memory and is not finished, nothing can fail, and no
file is touched. -/
theorem of_keepsInMemory (h : s.Takes round result t) (hmem : s.KeepsInMemory)
    (hopen : t.processor.finished = false) : result = .ok none ∧ t.files = s.files := by
  have hcarry := carryOut_eq_record hmem round.verdicts
  have hfinished : ¬ t.processor.finished = true := by
    rw [hopen]
    exact Bool.false_ne_true
  rw [h.finished_iff, not_or] at hfinished
  cases h with
  | refused hclosed => exact absurd hclosed hfinished.1
  | aborted _ hfails =>
    rw [hcarry] at hfails
    cases hfails
  | continued _ hgoes _ =>
    rw [hcarry] at hgoes
    cases hgoes
    exact ⟨rfl, rfl⟩
  | reported _ _ hfinal _ => exact absurd ⟨hfinal, by rw [hcarry]⟩ hfinished.2
  | unwritten _ _ hfinal _ => exact absurd ⟨hfinal, by rw [hcarry]⟩ hfinished.2

/-- Where a session keeps its lines does not change. -/
theorem output_eq (h : s.Takes round result t) :
    t.processor.output = s.processor.output ∧
      t.processor.collector.fragments? = s.processor.collector.fragments? := by
  by_cases hclosed : s.processor.finished = true
  · rw [(h.eq_of_finished hclosed).2]
    exact ⟨rfl, rfl⟩
  · have hrecorded := h.recorded (Bool.not_eq_true _ ▸ hclosed)
    rw [hrecorded.collector]
    exact ⟨hrecorded.output, rfl⟩

end Takes

end Session

/-! ### Histories -/

/-- A call, and the diagnostics and files that it finds. -/
structure Move where
  call : Call
  sink : Sink
  files : FileSystem

/-- A call with the sessions before and after it, and its result. -/
structure Event where
  call : Call
  before : Session
  result : Except Failure (Option Report)
  after : Session

namespace Event

/-- A call that carries a final round whose verdicts can all be carried out. -/
def Finishes (e : Event) : Prop :=
  e.before.CanFinish e.call.round

/-- Whether a call gave a report. -/
def reports (e : Event) : Bool :=
  match e.result with
  | .ok (some _) => true
  | _ => false

theorem exists_report {e : Event} (h : e.reports = true) :
    ∃ report, e.result = .ok (some report) := by
  unfold reports at h
  split at h
  · next report hresult => exact ⟨report, hresult⟩
  · cases h

end Event

namespace Processor

/-- A call of a processor. -/
def event (p : Processor) (m : Move) : Event :=
  let before : Session := ⟨p, m.sink, m.files⟩
  { call := m.call, before := before, result := (before.call m.call).1,
    after := (before.call m.call).2 }

/-- The calls of a processor one after the other. -/
def events (p : Processor) : List Move → List Event
  | [] => []
  | m :: rest => p.event m :: (p.event m).after.processor.events rest

theorem takes_event (p : Processor) (m : Move) :
    (p.event m).before.Takes m.call.round (p.event m).result (p.event m).after :=
  Session.takes_call _ m.call

/-- Every call of a history is a call of some processor, which is finished if one of the calls
before it finished it. -/
theorem exists_of_events_eq {p : Processor} {moves : List Move} {pre post : List Event} {e : Event}
    (h : p.events moves = pre ++ e :: post) :
    ∃ q m, e = event q m ∧ q.collector.fragments? = p.collector.fragments? ∧
      (q.finished = true ↔ p.finished = true ∨ ∃ f ∈ pre, f.Finishes) := by
  induction pre generalizing p moves with
  | nil =>
    cases moves with
    | nil => cases h
    | cons m rest =>
      obtain ⟨rfl, -⟩ := List.cons.inj h
      exact ⟨p, m, rfl, rfl, by simp⟩
  | cons f pre ih =>
    cases moves with
    | nil => cases h
    | cons m rest =>
      obtain ⟨rfl, hrest⟩ := List.cons.inj h
      obtain ⟨q, n, he, hfragments, hfinished⟩ := ih hrest
      have htakes := p.takes_event m
      have hstep : (p.event m).after.processor.finished = true ↔
          p.finished = true ∨ (p.event m).Finishes := htakes.finished_iff
      refine ⟨q, n, he, hfragments.trans htakes.output_eq.2, ?_⟩
      rw [hfinished, hstep, List.exists_mem_cons_iff, or_assoc]

/-- A finished processor gives no report, and any other at most one. -/
theorem countP_reports_events (p : Processor) (moves : List Move) :
    (p.events moves).countP Event.reports ≤ if p.finished then 0 else 1 := by
  induction moves generalizing p with
  | nil => exact Nat.zero_le _
  | cons m rest ih =>
    have htakes := p.takes_event m
    have hrest := ih (p.event m).after.processor
    rw [events, List.countP_cons]
    by_cases hreports : (p.event m).reports = true
    · -- a report finishes the processor, so no later call gives one
      obtain ⟨report, hreport⟩ := Event.exists_report hreports
      rw [hreport] at htakes
      obtain ⟨hopen, hclosed⟩ := htakes.of_report
      have hopen : p.finished = false := hopen
      rw [hclosed, if_pos rfl] at hrest
      rw [if_pos hreports, hopen]
      exact Nat.succ_le_succ hrest
    · rw [if_neg hreports, Nat.add_zero]
      by_cases hclosed : p.finished = true
      · rw [htakes.finished_iff.2 (.inl hclosed), if_pos rfl] at hrest
        rw [if_pos hclosed]
        exact hrest
      · rw [if_neg hclosed]
        exact Nat.le_trans hrest (by split <;> decide)

end Processor

/-- How the calls of one processor go. -/
structure IsLifeCycle (output : Output) (events : List Event) : Prop where
  /-- A processor is finished from the first call on that finishes it. -/
  finished : ∀ pre e post, events = pre ++ e :: post →
    (e.before.processor.finished = true ↔ ∃ f ∈ pre, f.Finishes) ∧
      (e.after.processor.finished = true ↔ ∃ f ∈ pre ++ [e], f.Finishes)
  /-- Every later call is refused and changes nothing. -/
  refused : ∀ pre e post, events = pre ++ e :: post → (∃ f ∈ pre, f.Finishes) →
    e.result = .error (.input .roundAfterEnd) ∧ e.after = e.before
  /-- There is one report at most. -/
  reports : events.countP Event.reports ≤ 1
  /-- The final round is not passed over, and its report is not missing. -/
  answered : ∀ e ∈ events, e.call.round.isFinal = true →
    e.result ≠ .ok none ∧ e.result ≠ .error (.input .noReport)
  /-- An artifact is written by the finishing call, and no call before it fails. -/
  untouched : ∀ path, output.destination = .artifact path → ∀ pre e post,
    events = pre ++ e :: post → (∀ f ∈ pre ++ [e], ¬ f.Finishes) →
      e.result = .ok none ∧ e.after.files = e.before.files

/-- The calls of a processor go like this, whatever they are and whatever they find. -/
theorem Processor.isLifeCycle_events (output : Output) (moves : List Move) :
    IsLifeCycle output ((Processor.new output).events moves) := by
  have hfinished : ∀ pre e post, (Processor.new output).events moves = pre ++ e :: post →
      (e.before.processor.finished = true ↔ ∃ f ∈ pre, f.Finishes) ∧
        (e.after.processor.finished = true ↔ ∃ f ∈ pre ++ [e], f.Finishes) := by
    intro pre e post h
    obtain ⟨q, m, rfl, -, hbefore⟩ := exists_of_events_eq h
    have hopen : ¬ (Processor.new output).finished = true := Bool.false_ne_true
    rw [or_iff_right hopen] at hbefore
    have hafter : (q.event m).after.processor.finished = true ↔
        q.finished = true ∨ (q.event m).Finishes := (q.takes_event m).finished_iff
    refine ⟨hbefore, ?_⟩
    rw [hafter, hbefore]
    simp [or_and_right, exists_or]
  refine ⟨hfinished, fun pre e post h hpre => ?_, ?_, fun e he hfinal => ?_,
    fun path hpath pre e post h hnone => ?_⟩
  · obtain ⟨q, m, rfl, -, -⟩ := exists_of_events_eq h
    exact (q.takes_event m).eq_of_finished ((hfinished pre _ post h).1.2 hpre)
  · exact countP_reports_events (Processor.new output) moves
  · obtain ⟨pre, post, h⟩ := List.append_of_mem he
    obtain ⟨q, m, rfl, -, -⟩ := exists_of_events_eq h
    exact ⟨(q.takes_event m).ne_none_of_isFinal hfinal, (q.takes_event m).ne_noReport⟩
  · obtain ⟨q, m, rfl, hfragments, -⟩ := exists_of_events_eq h
    have hmem : q.collector.fragments? = none := by
      rw [hfragments, Processor.new, hpath]
      rfl
    have hopen : (q.event m).after.processor.finished = false := by
      rw [← Bool.not_eq_true, (hfinished pre _ post h).2]
      rintro ⟨f, hf, hfinishes⟩
      exact hnone f hf hfinishes
    exact (q.takes_event m).of_keepsInMemory hmem hopen

/-- A processor whose artifact cannot be written is finished all the same. -/
example :
    let fresh := Session.start ⟨.artifact ⟨"d/"⟩, .utf8⟩ (.inDirectory [])
    fresh.finish.1 = .error (.io ⟨"d/"⟩) ∧
      fresh.finish.2.finish.1 = .error (.input .roundAfterEnd) := by
  decide +kernel

end CompilerHints
