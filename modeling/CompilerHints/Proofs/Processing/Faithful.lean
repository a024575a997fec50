import CompilerHints.Proofs.Artifact
import CompilerHints.Proofs.Processing.InMemory
import Mathlib.Data.Set.Defs

/-!
# Artifacts tell the accepted directives

On well-formed declarations, no two directives read the same, so that leaving out repeated texts
never leaves out a directive; and what else happened in a run is not to be seen in its artifact.

* `Declaration.resolved`: a declaration whose result is written out.
* `acceptedDirectives`: the directives other than `quiet` that rounds contribute.
* `acceptedTexts_eq_iff`: the texts tell the directives.
* `Session.artifact_eq_iff`: the artifacts of two runs tell whether these accepted the same.
-/

namespace CompilerHints

open Text

/-- A declaration with its result written out, where a missing one counts as `void`. -/
def Declaration.resolved (d : Declaration) : Declaration :=
  { d with returns := some d.result }

theorem Declaration.resolved_eq_iff {d e : Declaration} :
    d.resolved = e.resolved ↔
      d.owner = e.owner ∧ d.name = e.name ∧ d.parameters = e.parameters ∧ d.result = e.result := by
  rw [resolved, resolved, mk.injEq, Option.some.injEq]

/-- Lines of well-formed declarations read the same only if the directives are the same. -/
theorem Line.member_text_eq_iff {d e : Declaration} {j k : Directive} (hd : d.IsWellFormed)
    (he : e.IsWellFormed) (hj : j ≠ .quiet) (hk : k ≠ .quiet) :
    (member d j).text = (member e k).text ↔ d.resolved = e.resolved ∧ j = k := by
  rw [Declaration.resolved_eq_iff]
  refine ⟨member_text_inj hd he hj hk, ?_⟩
  rintro ⟨h, rfl⟩
  refine (text_eq_iff (isQuiet_member_eq_false_iff.2 hj) (isQuiet_member_eq_false_iff.2 hk)).2
    ⟨rfl, ?_⟩
  rw [descriptor_member, descriptor_member, Declaration.descriptor_congr h]

/-! ### Directives of rounds -/

/-- The declarations of the accepted directives are well formed. -/
def AreWellFormed (rounds : List Round) : Prop :=
  ∀ d k, AcceptedOn rounds d k → d.IsWellFormed

/-- The directives other than `quiet` that rounds contribute, each with its declaration. -/
def acceptedDirectives (rounds : List Round) : Set (Declaration × Directive) :=
  {p | ∃ d, AcceptedOn rounds d p.2 ∧ d.resolved = p.1}

theorem AreWellFormed.lineFeed_not_mem {rounds : List Round} (h : AreWellFormed rounds) :
    ∀ text ∈ acceptedTexts rounds, '\n' ∉ text.toList := by
  intro text htext
  by_cases hquiet : text = quietText
  · rw [hquiet]
    decide
  · obtain ⟨d, k, hacc, rfl⟩ := (mem_acceptedTexts_iff_of_ne_quietText hquiet).1 htext
    have hd := h d k hacc
    rw [Line.lineFeed_mem_text_iff hacc.1]
    rintro (e | e | ⟨name, hname, e⟩ | e)
    · exact hd.owner.2 e
    · exact hd.name.2 e
    · exact (hd.references name hname).2 e
    · exact hacc.lineFeed_not_mem_suffix e

/-- The text of a directive is found among the texts only if the directive was accepted. -/
theorem AreWellFormed.mem_acceptedTexts_iff {rounds : List Round} (h : AreWellFormed rounds)
    {d : Declaration} {k : Directive} (hd : d.IsWellFormed) (hk : k ≠ .quiet) :
    (Line.member d k).text ∈ acceptedTexts rounds ↔
      (d.resolved, k) ∈ acceptedDirectives rounds := by
  rw [mem_acceptedTexts_iff_of_ne_quietText (Line.member_text_ne_quietText hk)]
  constructor
  · rintro ⟨e, j, hacc, htext⟩
    obtain ⟨hresolved, rfl⟩ := (Line.member_text_eq_iff hd (h e j hacc) hk hacc.1).1 htext
    exact ⟨e, hacc, hresolved.symm⟩
  · rintro ⟨e, hacc, hresolved⟩
    exact ⟨e, k, hacc, (Line.member_text_eq_iff hd (h e k hacc) hk hk).2 ⟨hresolved.symm, rfl⟩⟩

theorem AreWellFormed.acceptedDirectives_subset {a b : List Round} (ha : AreWellFormed a)
    (hb : AreWellFormed b) (h : ∀ t ∈ acceptedTexts a, t ∈ acceptedTexts b) :
    ∀ p ∈ acceptedDirectives a, p ∈ acceptedDirectives b := by
  rintro ⟨d', k⟩ ⟨d, hacc, rfl⟩
  have hd := ha d k hacc
  rw [← hb.mem_acceptedTexts_iff hd hacc.1]
  exact h _ ((ha.mem_acceptedTexts_iff hd hacc.1).2 ⟨d, hacc, rfl⟩)

theorem AreWellFormed.acceptedTexts_subset {a b : List Round} (ha : AreWellFormed a)
    (hb : AreWellFormed b) (hquiet : quietText ∈ acceptedTexts a → quietText ∈ acceptedTexts b)
    (h : ∀ p ∈ acceptedDirectives a, p ∈ acceptedDirectives b) :
    ∀ t ∈ acceptedTexts a, t ∈ acceptedTexts b := by
  intro t ht
  by_cases e : t = quietText
  · exact e ▸ hquiet (e ▸ ht)
  · obtain ⟨d, k, hacc, rfl⟩ := (mem_acceptedTexts_iff_of_ne_quietText e).1 ht
    exact (hb.mem_acceptedTexts_iff (ha d k hacc) hacc.1).2 (h _ ⟨d, hacc, rfl⟩)

/-- The texts of two lists of rounds are the same exactly if the directives are. -/
theorem acceptedTexts_eq_iff {a b : List Round} (ha : AreWellFormed a) (hb : AreWellFormed b) :
    (∀ t, t ∈ acceptedTexts a ↔ t ∈ acceptedTexts b) ↔
      (quietText ∈ acceptedTexts a ↔ quietText ∈ acceptedTexts b) ∧
        acceptedDirectives a = acceptedDirectives b := by
  constructor
  · intro h
    refine ⟨h quietText, Set.ext fun p => ⟨?_, ?_⟩⟩
    · exact ha.acceptedDirectives_subset hb (fun t => (h t).1) p
    · exact hb.acceptedDirectives_subset ha (fun t => (h t).2) p
  · rintro ⟨hquiet, h⟩ t
    constructor
    · exact ha.acceptedTexts_subset hb hquiet.1 (fun p hp => h ▸ hp) t
    · exact hb.acceptedTexts_subset ha hquiet.2 (fun p hp => h ▸ hp) t

/-! ### Runs -/

namespace Session

/-- Two runs that ended with reports wrote the same bytes exactly if they agree on `quiet` and on
the other directives that they accepted. -/
theorem artifact_eq_iff {charset : Charset} {path₁ path₂ : Path} {fs₁ fs₂ : FileSystem}
    {rounds₁ rounds₂ : List Round} {report₁ report₂ : Report} {s₁ s₂ : Session}
    (hrun₁ : (start ⟨.artifact path₁, charset⟩ fs₁).run rounds₁ = (.ok report₁, s₁))
    (hrun₂ : (start ⟨.artifact path₂, charset⟩ fs₂).run rounds₂ = (.ok report₂, s₂))
    (hwf₁ : AreWellFormed rounds₁) (hwf₂ : AreWellFormed rounds₂) :
    ∃ bytes₁ bytes₂,
      s₁.files.read? path₁ = some bytes₁ ∧ s₂.files.read? path₂ = some bytes₂ ∧
        (bytes₁ = bytes₂ ↔
          report₁.quiet = report₂.quiet ∧
            acceptedDirectives rounds₁ = acceptedDirectives rounds₂) := by
  obtain ⟨count₁, hwrite₁, rfl⟩ := run_start_eq_ok rfl hrun₁
  obtain ⟨count₂, hwrite₂, rfl⟩ := run_start_eq_ok rfl hrun₂
  obtain ⟨bytes₁, hencode₁, hread₁⟩ := read?_of_writeArtifact hwrite₁
  obtain ⟨bytes₂, hencode₂, hread₂⟩ := read?_of_writeArtifact hwrite₂
  refine ⟨bytes₁, bytes₂, hread₁, hread₂, ?_⟩
  have hlines {rounds : List Round} (h : AreWellFormed rounds) :
      ∀ line ∈ (CommandSet.ofTexts (acceptedTexts rounds)).finalize, '\n' ∉ line.toList :=
    fun line hline => h.lineFeed_not_mem line (CommandSet.mem_finalize_ofTexts.1 hline)
  rw [Charset.encode_renderArtifact_inj (hlines hwf₁) (hlines hwf₂) hencode₁ hencode₂,
    CommandSet.finalize_ofTexts_inj, CommandSet.ofTexts_eq_iff, acceptedTexts_eq_iff hwf₁ hwf₂,
    Bool.eq_iff_iff, CommandSet.quiet_ofTexts, CommandSet.quiet_ofTexts]

/-- Neither a repeated directive nor a `void` that is written out shows in an artifact. -/
theorem artifact_eq_of_repetition :
    let d : Declaration := { owner := "a.B", name := "m" }
    let once : Round := { elements := [⟨.method d.resolved, [.single .inline]⟩] }
    let twice : Round := { elements := [⟨.method d, [.single .inline, .single .inline]⟩] }
    ∃ report₁ report₂ s₁ s₂ bytes,
      (start ⟨.artifact ⟨"o"⟩, .utf8⟩ (.inDirectory [])).run [once] = (.ok report₁, s₁) ∧
      (start ⟨.artifact ⟨"o"⟩, .utf8⟩ (.inDirectory [])).run [twice] = (.ok report₂, s₂) ∧
      report₁ ≠ report₂ ∧
      s₁.files.read? ⟨"o"⟩ = some bytes ∧ s₂.files.read? ⟨"o"⟩ = some bytes := by
  intro d once twice
  obtain ⟨s₁, hrun₁⟩ : ∃ s, (start ⟨.artifact ⟨"o"⟩, .utf8⟩ (.inDirectory [])).run [once] =
      (.ok ⟨1, 1, false, .artifact ⟨"o"⟩ 18⟩, s) := exists_run_eq (by decide +kernel)
  obtain ⟨s₂, hrun₂⟩ : ∃ s, (start ⟨.artifact ⟨"o"⟩, .utf8⟩ (.inDirectory [])).run [twice] =
      (.ok ⟨2, 1, false, .artifact ⟨"o"⟩ 18⟩, s) := exists_run_eq (by decide +kernel)
  have hd : d.IsWellFormed := ⟨by decide, by decide, by decide⟩
  have hd' : d.resolved.IsWellFormed := ⟨by decide, by decide, by decide⟩
  obtain ⟨bytes₁, bytes₂, hread₁, hread₂, hiff⟩ := artifact_eq_iff hrun₁ hrun₂
    (fun e k h => (acceptedOn_method_iff.1 h).2.2.2 ▸ hd')
    (fun e k h => (acceptedOn_method_iff.1 h).2.2.2 ▸ hd)
  have hdirectives : acceptedDirectives [once] = acceptedDirectives [twice] := by
    ext p
    constructor
    · rintro ⟨e, h, he⟩
      obtain ⟨hk, hmem, hfits, rfl⟩ := acceptedOn_method_iff.1 h
      exact ⟨d, acceptedOn_method_iff.2 ⟨hk, List.mem_append_left _ hmem, hfits, rfl⟩, he⟩
    · rintro ⟨e, h, he⟩
      obtain ⟨hk, hmem, hfits, rfl⟩ := acceptedOn_method_iff.1 h
      refine ⟨d.resolved, acceptedOn_method_iff.2 ⟨hk, ?_, hfits, rfl⟩, he⟩
      simpa [Attachment.expand] using hmem
  obtain rfl : bytes₁ = bytes₂ := hiff.2 ⟨rfl, hdirectives⟩
  exact ⟨_, _, s₁, s₂, bytes₁, hrun₁, hrun₂, by decide, hread₁, hread₂⟩

end Session

end CompilerHints
