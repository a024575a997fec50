import CompilerHints.Proofs.Processing.InMemory
import CompilerHints.Proofs.Processing.Occurrences

/-!
# What a session gets to

Verdicts are carried out one after the other, up to the first line that cannot be kept. Those that
a session gets to are recorded, whatever becomes of the files, and a round adds nothing to that but
its end.

* `Session.carried`, `Session.carryOut_recorded`: the verdicts that a session gets to are recorded.
* `Session.Takes`, `Session.takes_process`: all that can become of a round.
* `Session.Takes.recorded`: what a round leaves in the processor and the diagnostics.
* `Session.OnlyLastIsFinal`, `Session.run_eq_carryOut`: runs that leave out no round.
* `Session.reached`, `Session.reached_of_run_eq_ok`: the occurrences that a session gets to.
-/

namespace CompilerHints

namespace Session

variable {s s' t : Session} {round : Round}

/-! ### Verdicts -/

/-- Verdicts are carried out in two parts, if the first one goes well. -/
theorem carryOut_append (s : Session) (a b : List Verdict) :
    s.carryOut (a ++ b) =
      match s.carryOut a with
      | (.ok (), s) => s.carryOut b
      | (.error failure, s) => (.error failure, s) := by
  induction a generalizing s with
  | nil => rfl
  | cons v a ih =>
    cases v with
    | rejected error => exact ih (s.emit error)
    | accepted warning? line =>
      rw [List.cons_append, carryOut, carryOut]
      cases hcollect : (warning?.elim s s.emit).collect line with
      | mk result t =>
        cases result with
        | ok isNew => exact ih t
        | error failure => rfl

theorem carryOut_cons (s : Session) (v : Verdict) (rest : List Verdict) :
    s.carryOut (v :: rest) =
      match s.carryOut [v] with
      | (.ok (), s) => s.carryOut rest
      | (.error failure, s) => (.error failure, s) :=
  carryOut_append s [v] rest

/-- How many verdicts a session gets to, the one that fails included. -/
def reach (s : Session) : List Verdict → Nat
  | [] => 0
  | v :: rest =>
    match s.carryOut [v] with
    | (.ok (), s) => s.reach rest + 1
    | (.error _, _) => 1

/-- The verdicts that a session gets to. -/
def carried (s : Session) (verdicts : List Verdict) : List Verdict :=
  verdicts.take (s.reach verdicts)

theorem carried_cons_of_ok {v : Verdict} (h : s.carryOut [v] = (.ok (), t)) (rest : List Verdict) :
    s.carried (v :: rest) = v :: t.carried rest := by
  rw [carried, reach, h, List.take_succ_cons]
  rfl

theorem carried_cons_of_error {v : Verdict} {failure : Failure}
    (h : s.carryOut [v] = (.error failure, t)) (rest : List Verdict) :
    s.carried (v :: rest) = [v] := by
  rw [carried, reach, h, List.take_succ_cons, List.take_zero]

/-- One verdict is recorded, also where the fragment of its line cannot be written. -/
theorem carryOut_singleton (s : Session) (v : Verdict) :
    (s.carryOut [v]).2.processor = (s.record [v]).processor ∧
      (s.carryOut [v]).2.sink = (s.record [v]).sink := by
  cases v with
  | rejected error => exact ⟨rfl, rfl⟩
  | accepted warning? line =>
    have hcollect (s : Session) :
        (s.collect line).2.processor = (s.record [.accepted none line]).processor ∧
          (s.collect line).2.sink = s.sink := by
      unfold collect
      rw [record]
      dsimp only
      exact ⟨by rw [Collector.collector_accept]; rfl, rfl⟩
    rw [record_accepted, carryOut]
    obtain ⟨hprocessor, hsink⟩ := hcollect (warning?.elim s s.emit)
    split
    · next h =>
      rw [h] at hprocessor hsink
      exact ⟨hprocessor, hsink⟩
    · next h =>
      rw [h] at hprocessor hsink
      exact ⟨hprocessor, hsink⟩

/-- Sessions with the same processor and diagnostics record alike. -/
theorem record_congr (hprocessor : s.processor = t.processor) (hsink : s.sink = t.sink)
    (verdicts : List Verdict) :
    (s.record verdicts).processor = (t.record verdicts).processor ∧
      (s.record verdicts).sink = (t.record verdicts).sink := by
  rw [record, record, hprocessor, hsink]
  exact ⟨rfl, rfl⟩

/-- The verdicts that a session gets to are recorded. -/
theorem carryOut_recorded (s : Session) (verdicts : List Verdict) :
    (s.carryOut verdicts).2.processor = (s.record (s.carried verdicts)).processor ∧
      (s.carryOut verdicts).2.sink = (s.record (s.carried verdicts)).sink := by
  induction verdicts generalizing s with
  | nil => exact ⟨rfl, rfl⟩
  | cons v rest ih =>
    obtain ⟨hprocessor, hsink⟩ := carryOut_singleton s v
    rw [carryOut_cons]
    cases hv : s.carryOut [v] with
    | mk result t =>
      rw [hv] at hprocessor hsink
      cases result with
      | ok _ =>
        obtain ⟨hp, hs⟩ := record_congr hprocessor hsink (t.carried rest)
        rw [carried_cons_of_ok hv, ← List.singleton_append, record_append]
        exact ⟨(ih t).1.trans hp, (ih t).2.trans hs⟩
      | error failure =>
        rw [carried_cons_of_error hv]
        exact ⟨hprocessor, hsink⟩

theorem finished_carryOut (s : Session) (verdicts : List Verdict) :
    (s.carryOut verdicts).2.processor.finished = s.processor.finished := by
  rw [(carryOut_recorded s verdicts).1]
  rfl

/-- A session that goes well gets to all verdicts. -/
theorem carried_of_ok {verdicts : List Verdict} (h : s.carryOut verdicts = (.ok (), t)) :
    s.carried verdicts = verdicts := by
  induction verdicts generalizing s with
  | nil => rfl
  | cons v rest ih =>
    rw [carryOut_cons] at h
    cases hv : s.carryOut [v] with
    | mk result u =>
      rw [hv] at h
      cases result with
      | ok _ => rw [carried_cons_of_ok hv, ih h]
      | error failure => cases h

/-! ### Conclusions -/

theorem sink_conclude (s : Session) : s.conclude.2.sink = s.sink :=
  (conclude_files_only rfl).2

theorem processor_conclude (s : Session) : s.conclude.2.processor = s.processor :=
  (conclude_files_only rfl).1

/-! ### Rounds -/

/-- All that can become of a round. -/
inductive Takes (s : Session) (round : Round) : Except Failure (Option Report) → Session → Prop
  /-- The final round was taken before. -/
  | refused (hclosed : s.processor.finished = true) :
      Takes s round (.error (.input .roundAfterEnd)) s
  /-- A line cannot be kept. -/
  | aborted {failure : Failure} {t : Session} (hopen : s.processor.finished = false)
      (hcarry : s.carryOut round.verdicts = (.error failure, t)) :
      Takes s round (.error failure) t
  /-- There is more to come. -/
  | continued {t : Session} (hopen : s.processor.finished = false)
      (hcarry : s.carryOut round.verdicts = (.ok (), t)) (hfinal : round.isFinal = false) :
      Takes s round (.ok none) t
  /-- This was the final round. -/
  | reported {report : Report} {t u : Session} (hopen : s.processor.finished = false)
      (hcarry : s.carryOut round.verdicts = (.ok (), t)) (hfinal : round.isFinal = true)
      (hconclude : t.markFinished.conclude = (.ok report, u)) :
      Takes s round (.ok (some report)) u
  /-- This was the final round, but the artifact cannot be written. -/
  | unwritten {failure : Failure} {t u : Session} (hopen : s.processor.finished = false)
      (hcarry : s.carryOut round.verdicts = (.ok (), t)) (hfinal : round.isFinal = true)
      (hconclude : t.markFinished.conclude = (.error failure, u)) :
      Takes s round (.error failure) u

theorem takes_process (s : Session) (round : Round) :
    s.Takes round (s.process round).1 (s.process round).2 := by
  unfold process
  by_cases hclosed : s.processor.finished = true
  · rw [if_pos hclosed]
    exact .refused hclosed
  · rw [if_neg hclosed]
    rw [Bool.not_eq_true] at hclosed
    split
    · next hcarry => exact .aborted hclosed hcarry
    · next t hcarry =>
      by_cases hfinal : round.isFinal = true
      · rw [if_pos hfinal]
        split
        · next hconclude => exact .reported hclosed hcarry hfinal hconclude
        · next hconclude => exact .unwritten hclosed hcarry hfinal hconclude
      · rw [if_neg hfinal]
        exact .continued hclosed hcarry (Bool.not_eq_true _ ▸ hfinal)

theorem Takes.of_process_eq {result : Except Failure (Option Report)}
    (h : s.process round = (result, s')) : s.Takes round result s' := by
  have htakes := takes_process s round
  rwa [h] at htakes

/-- To finish is to take the final round, since that gives a report unless it fails. -/
theorem takes_finish (s : Session) : s.Takes .over (s.finish.1.map some) s.finish.2 := by
  unfold finish
  cases hprocess : s.process .over with
  | mk result t =>
    have htakes := Takes.of_process_eq hprocess
    cases result with
    | error failure => exact htakes
    | ok report? =>
      cases report? with
      | some report => exact htakes
      | none =>
        cases htakes with
        | continued _ _ hfinal => cases hfinal

theorem Takes.process_eq {result : Except Failure (Option Report)}
    (h : s.Takes round result s') : s.process round = (result, s') := by
  cases h with
  | refused hclosed => exact process_of_finished hclosed round
  | aborted hopen hcarry =>
    rw [process, hopen, hcarry]
    rfl
  | continued hopen hcarry hfinal =>
    rw [process, hopen, hcarry, hfinal]
    rfl
  | reported hopen hcarry hfinal hconclude =>
    rw [markFinished] at hconclude
    simp only [process, hopen, hcarry, hfinal, hconclude, Bool.false_eq_true, if_false, if_true]
  | unwritten hopen hcarry hfinal hconclude =>
    rw [markFinished] at hconclude
    simp only [process, hopen, hcarry, hfinal, hconclude, Bool.false_eq_true, if_false, if_true]

/-- A finished processor refuses, and nothing changes. -/
theorem Takes.eq_of_finished {result : Except Failure (Option Report)}
    (h : s.Takes round result t) (hclosed : s.processor.finished = true) :
    result = .error (.input .roundAfterEnd) ∧ t = s := by
  have hprocess := h.process_eq
  rw [process_of_finished hclosed] at hprocess
  cases hprocess
  exact ⟨rfl, rfl⟩

/-- The final round without elements does nothing but conclude. -/
theorem finish_eq_conclude (hopen : s.processor.finished = false) :
    s.finish = s.markFinished.conclude := by
  have hcarry : s.carryOut Round.over.verdicts = (.ok (), s) := rfl
  cases hconclude : s.markFinished.conclude with
  | mk result t =>
    cases result with
    | ok report => rw [finish, (Takes.reported hopen hcarry rfl hconclude).process_eq]
    | error failure => rw [finish, (Takes.unwritten hopen hcarry rfl hconclude).process_eq]

/-- A session has recorded verdicts, whatever else happened to it. -/
structure Recorded (s : Session) (verdicts : List Verdict) (t : Session) : Prop where
  output : t.processor.output = s.processor.output
  collector : t.processor.collector =
    s.processor.collector.record (verdicts.filterMap Verdict.line?)
  sink : t.sink = (s.record verdicts).sink

theorem recorded_of_carryOut {result : Except Failure Unit} {verdicts : List Verdict}
    (h : s.carryOut verdicts = (result, t)) : s.Recorded (s.carried verdicts) t := by
  obtain ⟨hprocessor, hsink⟩ := carryOut_recorded s verdicts
  rw [h] at hprocessor hsink
  exact ⟨by rw [hprocessor]; rfl, by rw [hprocessor]; rfl, hsink⟩

theorem Recorded.of_conclude {result : Except Failure Report} {verdicts : List Verdict}
    (h : s.Recorded verdicts t) (hconclude : t.markFinished.conclude = (result, s')) :
    s.Recorded verdicts s' := by
  obtain ⟨hprocessor, hsink⟩ := conclude_files_only hconclude
  exact ⟨by rw [hprocessor]; exact h.output, by rw [hprocessor]; exact h.collector,
    hsink.trans h.sink⟩

/-- Of a round that is not refused the verdicts that a session gets to are recorded. -/
theorem Takes.recorded {result : Except Failure (Option Report)} (h : s.Takes round result t)
    (hopen : s.processor.finished = false) : s.Recorded (s.carried round.verdicts) t := by
  cases h with
  | refused hclosed =>
    rw [hopen] at hclosed
    cases hclosed
  | aborted _ hcarry => exact recorded_of_carryOut hcarry
  | continued _ hcarry _ => exact recorded_of_carryOut hcarry
  | reported _ hcarry _ hconclude => exact (recorded_of_carryOut hcarry).of_conclude hconclude
  | unwritten _ hcarry _ hconclude => exact (recorded_of_carryOut hcarry).of_conclude hconclude

/-! ### Runs -/

/-- Only the last round may be the final one. -/
def OnlyLastIsFinal (rounds : List Round) : Prop :=
  ∀ round ∈ rounds.dropLast, round.isFinal = false

instance (rounds : List Round) : Decidable (OnlyLastIsFinal rounds) :=
  inferInstanceAs (Decidable (∀ round ∈ rounds.dropLast, round.isFinal = false))

theorem OnlyLastIsFinal.tail {rest : List Round} (h : OnlyLastIsFinal (round :: rest)) :
    OnlyLastIsFinal rest := by
  cases rest with
  | nil => exact fun _ hmem => absurd hmem List.not_mem_nil
  | cons next rest => exact fun r hmem => h r (List.mem_cons_of_mem _ hmem)

theorem OnlyLastIsFinal.eq_nil {rest : List Round} (h : OnlyLastIsFinal (round :: rest))
    (hfinal : round.isFinal = true) : rest = [] := by
  cases rest with
  | nil => rfl
  | cons next rest =>
    rw [h round List.mem_cons_self] at hfinal
    cases hfinal

/-- A run carries out all verdicts, up to the first line that cannot be kept, and then
concludes. -/
theorem run_eq_carryOut (hopen : s.processor.finished = false) {rounds : List Round}
    (hrounds : OnlyLastIsFinal rounds) :
    s.run rounds =
      match s.carryOut (rounds.flatMap Round.verdicts) with
      | (.ok (), s) => s.markFinished.conclude
      | (.error failure, s) => (.error failure, s) := by
  unfold run
  induction rounds generalizing s with
  | nil => exact finish_eq_conclude hopen
  | cons round rest ih =>
    rw [runFrom, List.flatMap_cons, carryOut_append]
    cases hprocess : s.process round with
    | mk result u =>
      cases Takes.of_process_eq hprocess with
      | refused hclosed =>
        rw [hopen] at hclosed
        cases hclosed
      | aborted _ hcarry => rw [hcarry]
      | continued _ hcarry _ =>
        rw [hcarry]
        have hopen' := finished_carryOut s round.verdicts
        rw [hcarry, hopen] at hopen'
        exact ih hopen' hrounds.tail
      | reported _ hcarry hfinal hconclude =>
        rw [hcarry, hrounds.eq_nil hfinal]
        exact hconclude.symm
      | unwritten _ hcarry hfinal hconclude =>
        rw [hcarry, hrounds.eq_nil hfinal]
        exact hconclude.symm

theorem keepsInMemory_start (path : Path) (charset : Charset) (fs : FileSystem) :
    (start ⟨.artifact path, charset⟩ fs).KeepsInMemory := rfl

/-- A run that keeps everything in memory records all verdicts and then concludes. -/
theorem run_eq_conclude (h : s.KeepsInMemory) (hopen : s.processor.finished = false)
    {rounds : List Round} (hrounds : OnlyLastIsFinal rounds) :
    s.run rounds = (s.record (rounds.flatMap Round.verdicts)).markFinished.conclude := by
  rw [run_eq_carryOut hopen hrounds, carryOut_eq_record h]

/-! ### Occurrences -/

/-- The occurrences of a round that a session gets to. -/
def reachedIn (s : Session) (round : Round) : List Occurrence :=
  if s.processor.finished then [] else round.occurrences.take (s.reach round.verdicts)

theorem reachedIn_over (s : Session) : s.reachedIn .over = [] := by
  rw [reachedIn]
  exact (congrArg _ List.take_nil).trans (ite_self _)

/-- The occurrences that a session gets to while it takes rounds, up to the first failure. -/
def reached (s : Session) : List Round → List Occurrence
  | [] => []
  | round :: rest =>
    s.reachedIn round ++
      match s.process round with
      | (.ok _, s) => s.reached rest
      | (.error _, _) => []

/-- A round that goes well up to its end is gone through completely. -/
theorem reachedIn_of_ok (hopen : s.processor.finished = false)
    (h : s.carryOut round.verdicts = (.ok (), t)) : s.reachedIn round = round.occurrences := by
  have hlength : round.occurrences.length = round.verdicts.length := by
    rw [← List.length_map Occurrence.error?, ← round.map_error?_verdicts, List.length_map]
  have hall : (s.carried round.verdicts).length = round.verdicts.length := by
    rw [carried_of_ok h]
  rw [carried, List.length_take] at hall
  rw [reachedIn, hopen, if_neg Bool.false_ne_true]
  exact List.take_of_length_le (by omega)

/-- A run that ends with a report has gone through all of its rounds. -/
theorem reached_of_run_eq_ok (hopen : s.processor.finished = false) {rounds : List Round}
    (hrounds : OnlyLastIsFinal rounds) {report : Report} (h : s.run rounds = (.ok report, t)) :
    s.reached rounds = rounds.flatMap Round.occurrences := by
  unfold run at h
  generalize none = last at h
  induction rounds generalizing s last with
  | nil => rfl
  | cons round rest ih =>
    rw [runFrom] at h
    rw [reached, List.flatMap_cons]
    cases hprocess : s.process round with
    | mk result u =>
      rw [hprocess] at h
      have htakes := Takes.of_process_eq hprocess
      cases htakes with
      | refused _ => cases h
      | aborted _ _ => cases h
      | unwritten _ _ _ _ => cases h
      | continued _ hcarry _ =>
        have hopen' := finished_carryOut s round.verdicts
        rw [hcarry, hopen] at hopen'
        rw [reachedIn_of_ok hopen hcarry]
        exact congrArg _ (ih hopen' hrounds.tail none h)
      | reported _ hcarry hfinal _ =>
        rw [reachedIn_of_ok hopen hcarry, hrounds.eq_nil hfinal]
        rfl

/-- What the verdicts that a session gets to have to say is said by the occurrences. -/
theorem filterMap_carried {β : Type} {f : Verdict → Option β} {g : Occurrence → Option β}
    (hopen : s.processor.finished = false)
    (h : round.verdicts.map f = round.occurrences.map g) :
    (s.carried round.verdicts).filterMap f = (s.reachedIn round).filterMap g := by
  rw [reachedIn, hopen, if_neg Bool.false_ne_true, carried]
  have htake := congrArg (List.take (s.reach round.verdicts)) h
  rw [← List.map_take, ← List.map_take] at htake
  have hid := congrArg (List.filterMap id) htake
  rwa [List.filterMap_map, List.filterMap_map] at hid

end Session

end CompilerHints
