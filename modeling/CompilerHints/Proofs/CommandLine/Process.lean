import CompilerHints.CommandLine.Run
import CompilerHints.Proofs.Configuration.Overlay
import CompilerHints.Proofs.Processing.Refused

/-!
# How a `process` command ends

The settings, the options and the whole input are looked at before anything is written. If one of
them is no good the command fails and the files are what they were. Otherwise a run that gives a
report has written its output, and the exit code tells whether a directive was refused. How the run
is reported does not matter for the files, nor for the exit code unless a path that is no text is to
be reported in JSON.

* `Unprepared`, `Prepared`: what can be wrong before a run starts, and what is there otherwise.
* `prepare_eq_ok_iff`, `exists_prepare_eq_error_iff`: when a run can start.
* `EndsWithRun`: how the command ends with its run.
* `ProcessesInput`, `Invocation.processesInput`: how the command ends in any case.
* `Invocation.exitCode_ne_of_root`: where the exit code depends on the way of reporting.
-/

namespace CompilerHints

/-! ### What can be wrong before a run starts -/

/-- Something that a command has to read or to check before its run starts is no good. -/
inductive Unprepared (g : GlobalSettings) (input : String) (options : List String)
    (stdin? : Option String) (fs : FileSystem) : Prop
  /-- There is no working directory, or the settings cannot be read, or they break a rule. -/
  | settings {error : CommandError} (h : g.load fs = .error error)
  /-- A text is no option. -/
  | option {raw : String} {error : ConfigurationError} (hraw : raw ∈ options)
      (h : parseOption raw = .error error)
  /-- An option names no charset. -/
  | charset {os : List ConfigurationOption} (hparse : options.mapM parseOption = .ok os)
      (h : ¬ Configuration.NamesCharsets os)
  /-- With the options laid over them the settings break a rule. -/
  | rule {c : Configuration} {os : List ConfigurationOption} {rule : Configuration.Rule}
      (hload : g.load fs = .ok c) (hparse : options.mapM parseOption = .ok os)
      (h : (c.overlay os).Breaks rule)
  /-- The input cannot be read, or is no text. -/
  | unreadable {failure : Failure} (h : readInput input stdin? fs = .error failure)
  /-- The text is no list of rounds, or more than that. -/
  | undecodable {text : String} {problem : InputProblem}
      (hread : readInput input stdin? fs = .ok text) (h : parseRounds text = .error problem)
  /-- An item of a list is no round, whatever stands before it. Nor is the list itself one, which it
  might be with the parts of a round as its items. -/
  | item {text : String} {items : List Json} {rest : List Char} {item : Json}
      (hread : readInput input stdin? fs = .ok text)
      (hvalue : Json.readValue? text.toList = some (.array items, rest)) (hitem : item ∈ items)
      (h : Round.ofJson? { kindsByNumber := true } item = none)
      (hsingle : Round.ofJson? { kindsByNumber := true } (.array items) = none)

/-- All that a run needs is there: settings `c` and rounds. -/
structure Prepared (g : GlobalSettings) (input : String) (options : List String)
    (stdin? : Option String) (fs : FileSystem) (c : Configuration) (rounds : List Round) :
    Prop where
  /-- The settings are those that are loaded, with the options laid over them. -/
  settings : ∃ base os, g.load fs = .ok base ∧ options.mapM parseOption = .ok os ∧
    Configuration.NamesCharsets os ∧ c = base.overlay os ∧ ∀ rule, ¬ c.Breaks rule
  /-- The rounds are those of the input. -/
  rounds : ∃ text, readInput input stdin? fs = .ok text ∧ parseRounds text = .ok rounds

section Reading

variable {α β ε : Type} {x : α} {xs : List α}

/-- Two steps go well if the second one goes well with what the first one gave. -/
theorem bind_eq_ok_iff {first : Except ε α} {next : α → Except ε β} {b : β} :
    first >>= next = .ok b ↔ ∃ a, first = .ok a ∧ next a = .ok b := by
  cases first with
  | error e => exact iff_of_false (fun h => by cases h) (fun ⟨_, h, _⟩ => by cases h)
  | ok a => exact ⟨fun h => ⟨a, rfl, h⟩, fun ⟨_, h, hnext⟩ => by cases h; exact hnext⟩

/-- How an error is told does not matter for whether a step goes well. -/
theorem mapError_eq_ok_iff {ε' : Type} {first : Except ε α} {tell : ε → ε'} {a : α} :
    first.mapError tell = .ok a ↔ first = .ok a := by
  cases first with
  | error e => exact iff_of_false (fun h => by cases h) (fun h => by cases h)
  | ok b => exact ⟨fun h => by cases h; rfl, fun h => by cases h; rfl⟩

/-- A step goes well unless it ends with an error. -/
theorem exists_eq_ok {x : Except ε α} (h : ∀ e, x ≠ .error e) : ∃ a, x = .ok a := by
  cases x with
  | error e => exact absurd rfl (h e)
  | ok a => exact ⟨a, rfl⟩

/-- Values are read one after the other, unless one of them cannot be. -/
theorem exists_mapM_eq_error_iff {read : α → Except ε β} :
    (∃ e, xs.mapM read = .error e) ↔ ∃ x ∈ xs, ∃ e, read x = .error e := by
  induction xs with
  | nil => exact iff_of_false (fun ⟨_, h⟩ => by cases h) (by simp)
  | cons x xs ih =>
    rw [List.exists_mem_cons_iff, ← ih, List.mapM_cons]
    cases hx : read x with
    | error e => exact iff_of_true ⟨e, rfl⟩ (.inl ⟨e, rfl⟩)
    | ok y =>
      rw [or_iff_right (fun ⟨_, h⟩ => by cases h)]
      cases xs.mapM read with
      | error e => exact iff_of_true ⟨e, rfl⟩ ⟨e, rfl⟩
      | ok ys => exact iff_of_false (fun ⟨_, h⟩ => by cases h) (fun ⟨_, h⟩ => by cases h)

/-- Values are not read at all if one of them cannot be. -/
theorem mapM_eq_none {read? : α → Option β} (hx : x ∈ xs) (h : read? x = none) :
    xs.mapM read? = none := by
  induction xs with
  | nil => cases hx
  | cons y ys ih =>
    rw [List.mapM_cons]
    rcases List.mem_cons.1 hx with rfl | hx
    · rw [h]
      rfl
    · rw [ih hx]
      cases read? y <;> rfl

end Reading

section Preparing

variable {g g' : GlobalSettings} {input : String} {options : List String} {stdin? : Option String}
  {fs : FileSystem} {c : Configuration} {rounds : List Round}

/-- Options are laid over settings if all charsets are known and no rule is broken. -/
theorem Configuration.applyOptions_eq_ok_iff {base : Configuration}
    {os : List ConfigurationOption} :
    base.applyOptions os = .ok c ↔
      NamesCharsets os ∧ c = base.overlay os ∧ ∀ rule, ¬ c.Breaks rule := by
  by_cases hnames : NamesCharsets os
  · rw [applyOptions_eq_validate base hnames, validate_eq_ok_iff, and_iff_right hnames]
    exact and_congr_right fun e => by rw [e]
  · obtain ⟨_, _, _, -, -, -, herror⟩ := exists_setOptions_eq_error base hnames
    rw [applyOptions, herror]
    exact iff_of_false (fun h => by cases h) fun h => hnames h.1

/-- Settings are loaded if everything about them is in order. -/
theorem GlobalSettings.loadWith_eq_ok_iff :
    g.loadWith options fs = .ok c ↔
      ∃ base os, g.load fs = .ok base ∧ options.mapM parseOption = .ok os ∧
        Configuration.NamesCharsets os ∧ c = base.overlay os ∧ ∀ rule, ¬ c.Breaks rule := by
  simp only [loadWith, bind_eq_ok_iff, mapError_eq_ok_iff, Configuration.applyOptions_eq_ok_iff,
    exists_and_left]

theorem readRounds_eq_ok_iff :
    readRounds input stdin? fs = .ok rounds ↔
      ∃ text, readInput input stdin? fs = .ok text ∧ parseRounds text = .ok rounds := by
  unfold readRounds
  cases readInput input stdin? fs with
  | error failure => simp
  | ok text =>
    simp only [Except.ok.injEq, exists_eq_left']
    cases parseRounds text <;> simp

/-- A run can start if all that it needs is there. -/
theorem prepare_eq_ok_iff :
    prepare g input options stdin? fs = .ok (c, rounds) ↔
      Prepared g input options stdin? fs c rounds := by
  have hparts : prepare g input options stdin? fs = .ok (c, rounds) ↔
      g.loadWith options fs = .ok c ∧ readRounds input stdin? fs = .ok rounds := by
    unfold prepare
    cases g.loadWith options fs with
    | error cause => simp
    | ok c' => cases readRounds input stdin? fs <;> simp
  rw [hparts, GlobalSettings.loadWith_eq_ok_iff, readRounds_eq_ok_iff]
  exact ⟨fun h => ⟨h.1, h.2⟩, fun h => ⟨h.settings, h.rounds⟩⟩

/-- A list with an item that is no round is not read, whatever stands before the item. -/
theorem exists_parseRounds_eq_error {text : String} {items : List Json} {rest : List Char}
    {item : Json} (hvalue : Json.readValue? text.toList = some (.array items, rest))
    (hitem : item ∈ items) (h : Round.ofJson? { kindsByNumber := true } item = none)
    (hsingle : Round.ofJson? { kindsByNumber := true } (.array items) = none) :
    ∃ problem, parseRounds text = .error problem := by
  have hall : Json.all? (Round.ofJson? { kindsByNumber := true }) (.array items) = none :=
    mapM_eq_none hitem h
  have hrounds : roundsOfJson? (.array items) = none := by
    rw [roundsOfJson?]
    simp only [hall, hsingle]
    rfl
  rw [parseRounds, hvalue]
  simp only [hrounds]
  split <;> exact ⟨_, rfl⟩

/-- Nothing is missing where all is there. -/
theorem Prepared.not_unprepared (h : Prepared g input options stdin? fs c rounds) :
    ¬ Unprepared g input options stdin? fs := by
  obtain ⟨⟨base, os, hload, hparse, hnames, rfl, hrules⟩, text, hread, hrounds⟩ := h
  intro hun
  cases hun with
  | settings h =>
    rw [hload] at h
    cases h
  | option hraw h =>
    obtain ⟨_, herror⟩ := exists_mapM_eq_error_iff.2 ⟨_, hraw, _, h⟩
    rw [hparse] at herror
    cases herror
  | charset hparse' h =>
    rw [hparse] at hparse'
    cases hparse'
    exact h hnames
  | rule hload' hparse' h =>
    rw [hload] at hload'
    rw [hparse] at hparse'
    cases hload'
    cases hparse'
    exact hrules _ h
  | unreadable h =>
    rw [hread] at h
    cases h
  | undecodable hread' h =>
    rw [hread] at hread'
    cases hread'
    rw [hrounds] at h
    cases h
  | item hread' hvalue hitem h hsingle =>
    rw [hread] at hread'
    cases hread'
    obtain ⟨problem, herror⟩ := exists_parseRounds_eq_error hvalue hitem h hsingle
    rw [hrounds] at herror
    cases herror

/-- All is there where nothing is missing. -/
theorem exists_prepared (h : ¬ Unprepared g input options stdin? fs) :
    ∃ c rounds, Prepared g input options stdin? fs c rounds := by
  obtain ⟨base, hload⟩ := exists_eq_ok fun _ e => h (.settings e)
  obtain ⟨os, hparse⟩ : ∃ os, options.mapM parseOption = .ok os := exists_eq_ok fun e he => by
    obtain ⟨raw, hraw, _, herror⟩ := exists_mapM_eq_error_iff.1 ⟨e, he⟩
    exact h (.option hraw herror)
  have hnames : Configuration.NamesCharsets os := by_contra fun hnot => h (.charset hparse hnot)
  obtain ⟨text, hread⟩ := exists_eq_ok fun _ e => h (.unreadable e)
  obtain ⟨rounds, hrounds⟩ := exists_eq_ok fun _ e => h (.undecodable hread e)
  exact ⟨base.overlay os, rounds,
    ⟨base, os, hload, hparse, hnames, rfl, fun _ hbreaks => h (.rule hload hparse hbreaks)⟩,
    text, hread, hrounds⟩

/-- A command fails before its run where something is missing. -/
theorem exists_prepare_eq_error_iff :
    (∃ error, prepare g input options stdin? fs = .error error) ↔
      Unprepared g input options stdin? fs := by
  constructor
  · rintro ⟨error, herror⟩
    by_contra h
    obtain ⟨c, rounds, hprepared⟩ := exists_prepared h
    rw [prepare_eq_ok_iff.2 hprepared] at herror
    cases herror
  · intro h
    cases hprepare : prepare g input options stdin? fs with
    | error error => exact ⟨error, rfl⟩
    | ok prepared => exact absurd h (prepare_eq_ok_iff.1 hprepare).not_unprepared

/-- Of the settings for all commands, only the choice of a file matters for that. -/
theorem prepare_congr (h : g'.config? = g.config?) :
    prepare g' input options stdin? fs = prepare g input options stdin? fs := by
  have hfrom (dir : Path) : g'.loadFrom dir fs = g.loadFrom dir fs := by
    rw [GlobalSettings.loadFrom, h, GlobalSettings.loadFrom]
  have hload : g'.load fs = g.load fs := by
    simp only [GlobalSettings.load, hfrom]
  rw [prepare, GlobalSettings.loadWith, hload, ← GlobalSettings.loadWith, ← prepare]

end Preparing

/-! ### The command -/

/-- How a command ends whose run starts on `fs`, with settings and below a root. -/
structure EndsWithRun (c : Configuration) (root : OutputRoot) (format : ReportFormat)
    (rounds : List Round) (fs : FileSystem) (done : Completion) : Prop where
  /-- If there is a report, the output is written in any case. The exit code is 0 unless a directive
  was refused, as long as the place of the output can be reported. -/
  reported : ∀ report s, (Session.start (c.resolve root.path) fs).run rounds = (.ok report, s) →
    (done.exitCode = 0 ∨ done.exitCode = 1) ∧ done.files = s.files ∧
      (c.resolve root.path).IsWritten rounds fs done.files ∧
      (format = .text ∨ c.isTextBelow root = true → (done.exitCode = 0 ↔ ¬ HasRefused rounds))
  /-- If there is none, the command fails, and the files are what the run left. -/
  failed : ∀ failure s, (Session.start (c.resolve root.path) fs).run rounds = (.error failure, s) →
    done.exitCode = 1 ∧ done.stdout = "" ∧ done.files = s.files

/-- How a command ends that processes an input. -/
structure ProcessesInput (g : GlobalSettings) (input : String) (root : OutputRoot)
    (options : List String) (format : ReportFormat) (stdin? : Option String) (fs : FileSystem)
    (done : Completion) : Prop where
  /-- Where something is no good from the start, nothing is printed and nothing is written. -/
  unprepared : Unprepared g input options stdin? fs →
    done.exitCode = 1 ∧ done.stdout = "" ∧ done.files = fs
  /-- Otherwise there are settings and rounds, and a run over them. -/
  prepared : ¬ Unprepared g input options stdin? fs →
    ∃ c rounds, Prepared g input options stdin? fs c rounds ∧
      EndsWithRun c root format rounds fs done
  /-- How it is reported what happened matters neither for the files, nor for the exit code as long
  as the format is the same or the root is a text. -/
  reporting : ∀ (g' : GlobalSettings) (format' : ReportFormat) (isTerminal : Bool),
    g'.config? = g.config? →
      let other := Invocation.run ⟨g', .process input root options format'⟩ isTerminal stdin? fs
      other.files = done.files ∧
        (format' = format ∨ root.isText = true → other.exitCode = done.exitCode)

section Processing

variable {g g' : GlobalSettings} {color color' : Bool} {format format' : ReportFormat}
  {input : String} {root : OutputRoot} {options : List String} {stdin? : Option String}
  {fs : FileSystem} {c : Configuration} {rounds : List Round}

theorem processCommand_of_prepare_eq_error {error : CommandError}
    (h : prepare g input options stdin? fs = .error error) :
    processCommand g color input root options format stdin? fs = .ofError error fs := by
  rw [processCommand, h]

theorem processCommand_of_run_eq_ok {report : Report} {s : Session}
    (h : Prepared g input options stdin? fs c rounds)
    (hrun : (Session.start (c.resolve root.path) fs).run rounds = (.ok report, s)) :
    processCommand g color input root options format stdin? fs =
      .ofReport g color format (c.isTextBelow root) report s := by
  simp only [processCommand, prepare_eq_ok_iff.2 h, hrun]

theorem processCommand_of_run_eq_error {failure : Failure} {s : Session}
    (h : Prepared g input options stdin? fs c rounds)
    (hrun : (Session.start (c.resolve root.path) fs).run rounds = (.error failure, s)) :
    processCommand g color input root options format stdin? fs =
      .ofError (.failure failure) s.files := by
  simp only [processCommand, prepare_eq_ok_iff.2 h, hrun]

theorem files_ofReport (placeIsText : Bool) (report : Report) (s : Session) :
    (Completion.ofReport g color format placeIsText report s).files = s.files := by
  cases format with
  | text => rfl
  | json => cases placeIsText <;> rfl

/-- Where the place of the output can be reported, the exit code tells whether there were errors. -/
theorem exitCode_ofReport {placeIsText : Bool} (h : format = .text ∨ placeIsText = true)
    (report : Report) (s : Session) :
    (Completion.ofReport g color format placeIsText report s).exitCode =
      if s.sink.hasErrors then 1 else 0 := by
  rcases h with rfl | rfl
  · rfl
  · cases format <;> rfl

/-- Where it cannot be reported, the exit code is that of a failure. -/
theorem exitCode_ofReport_json (report : Report) (s : Session) :
    (Completion.ofReport g color .json false report s).exitCode = 1 := rfl

theorem endsWithRun_of_prepared (h : Prepared g input options stdin? fs c rounds) :
    EndsWithRun c root format rounds fs
      (processCommand g color input root options format stdin? fs) := by
  refine ⟨fun report s hrun => ?_, fun failure s hrun => ?_⟩
  · rw [processCommand_of_run_eq_ok h hrun, files_ofReport]
    refine ⟨?_, rfl, Session.isWritten_of_run hrun, fun hplace => ?_⟩
    · cases format with
      | text =>
        rw [exitCode_ofReport (.inl rfl)]
        split <;> simp
      | json =>
        cases hplace : c.isTextBelow root with
        | true =>
          rw [exitCode_ofReport (.inr rfl)]
          split <;> simp
        | false => exact .inr (exitCode_ofReport_json report s)
    · rw [exitCode_ofReport hplace, ite_eq_right_iff, imp_iff_not Nat.one_ne_zero,
        Session.hasErrors_iff_hasRefused hrun]
  · rw [processCommand_of_run_eq_error h hrun]
    exact ⟨rfl, rfl, rfl⟩

theorem Configuration.isTextBelow_of_isText (h : root.isText = true) (c : Configuration) :
    c.isTextBelow root = true := by
  rw [isTextBelow, h, Bool.true_or]

/-- Two commands with the same choice of settings leave the same files, however they report. They
have the same exit code if the format is the same or the root is a text. -/
theorem processCommand_congr (h : g'.config? = g.config?) :
    let done := processCommand g color input root options format stdin? fs
    let other := processCommand g' color' input root options format' stdin? fs
    other.files = done.files ∧
      (format' = format ∨ root.isText = true → other.exitCode = done.exitCode) := by
  dsimp only
  rw [processCommand, prepare_congr h, processCommand]
  split
  · exact ⟨rfl, fun _ => rfl⟩
  · next c rounds _ =>
    split
    · exact ⟨rfl, fun _ => rfl⟩
    · refine ⟨by simp only [files_ofReport], ?_⟩
      rintro (rfl | htext)
      · cases format' with
        | text => rfl
        | json => cases c.isTextBelow root <;> rfl
      · have hplace := c.isTextBelow_of_isText htext
        rw [exitCode_ofReport (.inr hplace), exitCode_ofReport (.inr hplace)]

/-- A command that processes an input writes nothing before everything that it needs is read. Its
exit code follows the directives that were refused, and neither it nor the files depend on the way
of reporting, but for the exit code where a root that is no text would have to be reported. -/
theorem Invocation.processesInput (g : GlobalSettings) (input : String) (root : OutputRoot)
    (options : List String) (format : ReportFormat) (isTerminal : Bool) (stdin? : Option String)
    (fs : FileSystem) :
    ProcessesInput g input root options format stdin? fs
      (Invocation.run ⟨g, .process input root options format⟩ isTerminal stdin? fs) where
  unprepared h := by
    obtain ⟨error, herror⟩ := exists_prepare_eq_error_iff.2 h
    have hdone : Invocation.run ⟨g, .process input root options format⟩ isTerminal stdin? fs =
        .ofError error fs := processCommand_of_prepare_eq_error herror
    rw [hdone]
    exact ⟨rfl, rfl, rfl⟩
  prepared h := by
    obtain ⟨c, rounds, hprepared⟩ := exists_prepared h
    exact ⟨c, rounds, hprepared, endsWithRun_of_prepared hprepared⟩
  reporting _ _ _ h := processCommand_congr h

/-- One directive becomes a line and another one, on a field, is refused: the artifact has the line,
and the exit code is 1 in both formats. -/
theorem Invocation.processesInput_of_misplaced :
    let text := "[[[[[\"method\", \"a.B\", \"m\"], [\"inline\"]], " ++
      "[[\"field\", \"a.B\", \"x\"], [\"exclude\"]]]]]"
    let rounds : List Round :=
      [⟨[⟨.method { owner := "a.B", name := "m" }, [.single .inline]⟩,
        ⟨.field "a.B" "x", [.single .exclude]⟩], false⟩]
    let fs := FileSystem.inDirectory []
    let done (format : ReportFormat) :=
      Invocation.run ⟨{}, .process "-" { path := ⟨"o"⟩ } [] format⟩ false (some text) fs
    parseRounds text = .ok rounds ∧ HasRefused rounds ∧
      ¬ Unprepared {} "-" [] (some text) fs ∧ (∀ format, (done format).exitCode = 1) ∧
      (done .json).files = (done .text).files ∧
      (done .text).files.read? ⟨"o/META-INF/hotspot_compiler"⟩ =
        some (Text.utf8Bytes "inline a.B::m ()V\n") := by
  intro text rounds fs done
  have hprocesses (format : ReportFormat) :=
    Invocation.processesInput {} "-" { path := ⟨"o"⟩ } [] format false (some text) fs
  have hprepare : prepare {} "-" [] (some text) fs = .ok ({}, rounds) := by decide +kernel
  have hprepared := prepare_eq_ok_iff.1 hprepare
  have hparse : parseRounds text = .ok rounds := by
    obtain ⟨_, hread, hrounds⟩ := hprepared.rounds
    rw [readInput, if_pos rfl] at hread
    rwa [Except.ok.inj hread]
  have hrefused : HasRefused rounds :=
    ⟨_, List.mem_cons_self, _, List.mem_cons_of_mem _ List.mem_cons_self, _, List.mem_cons_self,
      .exclude, .single _, .inl (.field _ _ _)⟩
  have hends (format : ReportFormat) :
      EndsWithRun {} { path := ⟨"o"⟩ } format rounds fs (done format) := by
    obtain ⟨c, rounds', hprepared', hends⟩ := (hprocesses format).prepared hprepared.not_unprepared
    have hsame := prepare_eq_ok_iff.2 hprepared'
    rw [hprepare] at hsame
    obtain ⟨rfl, rfl⟩ := Prod.mk.inj (Except.ok.inj hsame)
    exact hends
  have hrun :
      let r := (Session.start (({} : Configuration).resolve ⟨"o"⟩) fs).run rounds
      r.1.isOk = true ∧ r.2.files.read? ⟨"o/META-INF/hotspot_compiler"⟩ =
        some (Text.utf8Bytes "inline a.B::m ()V\n") := by
    decide +kernel
  rcases hresult : (Session.start (({} : Configuration).resolve ⟨"o"⟩) fs).run rounds with
    ⟨failure | report, s⟩
  · rw [hresult] at hrun
    cases hrun.1
  · rw [hresult] at hrun
    have hreported (format : ReportFormat) := (hends format).reported report s hresult
    refine ⟨hparse, hrefused, hprepared.not_unprepared, fun format => ?_,
      ((hprocesses .text).reporting {} .json false rfl).1, ?_⟩
    · obtain ⟨hcode, -, -, hzero⟩ := hreported format
      exact hcode.resolve_left fun h => (hzero (.inr rfl)).1 h hrefused
    · rw [(hreported .text).2.1]
      exact hrun.2

/-- The second item of a list is no round: nothing is written of the first one, which is a round. -/
example :
    let run (text : String) :=
      Invocation.run ⟨{}, .process "-" { path := ⟨"o"⟩ } [] .json⟩ false (some text)
        (.inDirectory [])
    (run "[[[], true], 7]").files = .inDirectory [] ∧ (run "[[[], true], 7]").exitCode = 1 ∧
      (run "[[[], true]]").files.read? ⟨"o/META-INF/hotspot_compiler"⟩ = some [] ∧
      (run "[[[], true]]").exitCode = 0 := by
  decide +kernel

/-- Nothing is refused, but below a root that is no text the exit code depends on the format: the
report cannot be printed in JSON after the artifact was written. And an option that is missing
behind its switch is an error of the command line, which has an exit code of its own. -/
theorem Invocation.exitCode_ne_of_root :
    let run (format : ReportFormat) :=
      Invocation.run ⟨{}, .process "-" ⟨⟨"o"⟩, false⟩ [] format⟩ false (some "[]") (.inDirectory [])
    (run .text).exitCode = 0 ∧ (run .json).exitCode = 1 ∧ (run .json).stdout = "" ∧
      (run .json).files = (run .text).files ∧
      (run .json).files.read? ⟨"o/META-INF/hotspot_compiler"⟩ = some [] ∧
      (runProgram ["process", "-", "-A"] false (some "[]") (.inDirectory [])).exitCode = 2 := by
  decide +kernel

end Processing

end CompilerHints
