import CompilerHints.Proofs.Artifact
import CompilerHints.Proofs.Interchange.References
import CompilerHints.Proofs.Processing.InMemory

/-!
# One line for each directive

An artifact is meant to be read line by line. Option values have no line feeds, since a directive
is rejected otherwise, and names of types have none, since shapes are read from their spellings.
The names of members and of their owners are written as they come: a line feed in one of them, and
only there, makes lines that no directive asked for.

* `ReadsBack`: the lines of an artifact are those of the accepted directives.
* `lineFeed_not_mem_acceptedTexts_iff`: which names can bring a line feed into the lines.
* `Session.readsBack_iff`: the artifact of a run reads back exactly if no such name has a line feed.
-/

namespace CompilerHints

open Text

/-- The lines that were found in an artifact are those that a run reported and accepted. -/
structure ReadsBack (found : List String) (report : Report) (rounds : List Round) : Prop where
  length : found.length = report.lines
  nonempty : "" ∉ found
  accepted : ∀ line ∈ found, line ∈ acceptedTexts rounds
  quiet : quietText ∈ found ↔ report.quiet = true
  first : report.quiet = true → found.head? = some quietText ∧ found.count quietText = 1

/-- Among declarations that were read from an input, names of members and owners bring in the line
feeds. -/
theorem lineFeed_not_mem_acceptedTexts_iff {rounds : List Round}
    (hdotted : ∀ a ∈ acceptances rounds, a.HasDottedNames) :
    (∀ line ∈ acceptedTexts rounds, '\n' ∉ line.toList) ↔
      ∀ d k, AcceptedOn rounds d k → '\n' ∉ d.owner.toList ∧ '\n' ∉ d.name.toList := by
  constructor
  · intro h d k hacc
    have hline := h _ hacc.text_mem
    rw [Line.lineFeed_mem_text_iff hacc.1, not_or, not_or] at hline
    exact ⟨hline.1, hline.2.1⟩
  · intro h line hline
    by_cases hquiet : line = quietText
    · rw [hquiet]
      decide
    · obtain ⟨d, k, hacc, rfl⟩ := (mem_acceptedTexts_iff_of_ne_quietText hquiet).1 hline
      have ⟨_, a, ha, _, hd⟩ := hacc
      rw [Line.lineFeed_mem_text_iff hacc.1]
      rintro (e | e | ⟨name, hname, e⟩ | e)
      · exact (h d k hacc).1 e
      · exact (h d k hacc).2 e
      · exact Shape.lineFeed_not_mem_of_isDottedName (hdotted a ha d hd name hname) e
      · exact hacc.lineFeed_not_mem_suffix e

/-- What a set of accepted lines is finished to reads back, if it is found line by line. -/
theorem readsBack_finalize {rounds : List Round} {report : Report}
    (hlines : report.lines = (CommandSet.ofTexts (acceptedTexts rounds)).finalize.length)
    (hquiet : report.quiet = (CommandSet.ofTexts (acceptedTexts rounds)).quiet) :
    ReadsBack (CommandSet.ofTexts (acceptedTexts rounds)).finalize report rounds where
  length := hlines.symm
  nonempty h := by
    obtain ⟨line, -, e⟩ := List.mem_map.1 (CommandSet.mem_finalize_ofTexts.1 h)
    exact line.text_ne_empty e
  accepted _ h := CommandSet.mem_finalize_ofTexts.1 h
  quiet := by rw [CommandSet.mem_finalize_ofTexts, hquiet, CommandSet.quiet_ofTexts]
  first h := by
    rw [hquiet] at h
    refine ⟨CommandSet.head?_finalize_of_quiet h, ?_⟩
    rw [(CommandSet.nodup_finalize_ofTexts _).count, if_pos]
    exact CommandSet.mem_finalize_ofTexts.2 (CommandSet.quiet_ofTexts.1 h)

namespace Session

/-- The artifact of a run over an input reads back exactly if no name of a member or of an owner
that a directive was accepted on has a line feed. -/
theorem readsBack_iff {input : String} {rounds : List Round} {path : Path} {fs : FileSystem}
    {report : Report} {s : Session} (hinput : parseRounds input = .ok rounds)
    (hrun : (start ⟨.artifact path, .utf8⟩ fs).run rounds = (.ok report, s)) :
    ∃ artifact, s.files.readText? path = some artifact ∧
      (ReadsBack (pieces artifact) report rounds ↔
        ∀ d k, AcceptedOn rounds d k → '\n' ∉ d.owner.toList ∧ '\n' ∉ d.name.toList) := by
  obtain ⟨count, hwrite, rfl⟩ := run_start_eq_ok rfl hrun
  obtain ⟨bytes, hencode, hread⟩ := read?_of_writeArtifact hwrite
  have hbytes : bytes = utf8Bytes _ := Except.ok.inj (hencode.symm.trans (Charset.encode_utf8 _))
  refine ⟨_, by rw [FileSystem.readText?, hread, Option.bind_some, hbytes,
    ofUtf8Bytes?_utf8Bytes], ?_⟩
  rw [← lineFeed_not_mem_acceptedTexts_iff (hasDottedNames_of_parseRounds hinput)]
  constructor
  · intro h line hline
    -- the number of lines alone rules out line feeds
    have hlength := h.length
    rw [renderArtifact, length_pieces_joinLines_eq_iff] at hlength
    exact hlength line (CommandSet.mem_finalize_ofTexts.2 hline)
  · intro h
    rw [renderArtifact, pieces_joinLines fun line hline =>
      h line (CommandSet.mem_finalize_ofTexts.1 hline)]
    exact readsBack_finalize rfl rfl

/-- A line feed in the name of an owner ends the line, and what follows is read as the next one. -/
theorem not_readsBack_of_lineFeed_in_owner :
    let input := "\x7b\"elements\": [\x7b\"element\": \x7b\"kind\": \"method\", \"owner\": " ++
      "\"a\\nquiet\\nb\", \"name\": \"m\"\x7d, \"directives\": [\"inline\"]\x7d]\x7d"
    let d : Declaration := { owner := "a\nquiet\nb", name := "m" }
    let rounds : List Round := [{ elements := [⟨.method d, [.single .inline]⟩] }]
    parseRounds input = .ok rounds ∧
    ∃ report s artifact,
      (start ⟨.artifact ⟨"o"⟩, .utf8⟩ (.inDirectory [])).run rounds = (.ok report, s) ∧
      s.files.readText? ⟨"o"⟩ = some artifact ∧ ¬ ReadsBack (pieces artifact) report rounds := by
  intro input d rounds
  have hinput : parseRounds input = .ok rounds := by decide +kernel
  obtain ⟨s, hrun⟩ : ∃ s, (start ⟨.artifact ⟨"o"⟩, .utf8⟩ (.inDirectory [])).run rounds =
      (.ok ⟨1, 1, false, .artifact ⟨"o"⟩ 24⟩, s) := exists_run_eq (by decide +kernel)
  obtain ⟨artifact, hread, hiff⟩ := readsBack_iff hinput hrun
  refine ⟨hinput, _, s, artifact, hrun, hread, fun h => ?_⟩
  have hd := hiff.1 h d .inline
    (acceptedOn_method_iff.2 ⟨by decide, List.mem_cons_self, rfl, rfl⟩)
  exact hd.1 (by decide)

end Session

end CompilerHints
