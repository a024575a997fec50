import CompilerHints.Interchange.Diagnostic
import CompilerHints.Proofs.Interchange.References
import CompilerHints.Proofs.Interchange.Structures

/-!
# Reading what was written

Whatever form a value had when it was read, what is written for it has one form only, and it is read
as the same value again.

* `Element.ofJson?_toJson`, `Acceptance.ofJson?_toJson`, `Round.ofJson?_toJson`: parts of an input.
* `parseRounds_eq_ok`: the rounds of an input text.
* `Diagnostic.ofJson?_toJson`: diagnostics.
* `ReadsAgain`, `readsAgain`: all of these, for values that were read.
-/

namespace CompilerHints

/-! ### Shapes and declarations -/

theorem Shape.ofJson?_toJson {shape : Shape} (h : shape.IsSpellable) :
    Shape.ofJson? shape.toJson = some shape := by
  rw [Shape.ofJson?, toJson, Json.text?, Option.bind_some, ofSpelling?_spelling h]

theorem Shape.all?_ofJson?_map {shapes : List Shape} (h : ∀ s ∈ shapes, s.IsSpellable) :
    Json.all? Shape.ofJson? (.array (shapes.map toJson)) = some shapes :=
  Json.all?_array_map fun s hs => ofJson?_toJson (h s hs)

namespace Declaration

theorem nodup_keys_members (d : Declaration) : (d.members.map Prod.fst).Nodup := by
  cases h : d.returns <;> simp [members, h]

/-- A declaration of spellable shapes is read from its members. -/
theorem ofJson?_ofMembers {d : Declaration} (h : d.IsSpellable) :
    Declaration.ofJson? (.ofMembers d.members) = some d := by
  rw [Declaration.ofJson?, Json.fields?_ofMembers d.nodup_keys_members]
  obtain ⟨owner, name, parameters, returns⟩ := d
  have hparameters := Shape.all?_ofJson?_map h.parameters
  cases returns with
  | none =>
    simp [members, fieldNames, List.lookup_cons, ofFields?, Json.text?, Json.orElse, hparameters,
      Json.optional]
  | some shape =>
    have hshape := Shape.ofJson?_toJson (h.returns shape rfl)
    rw [Shape.toJson] at hshape
    simp [members, fieldNames, List.lookup_cons, ofFields?, Json.text?, Json.orElse, hparameters,
      Json.optional, Shape.toJson, hshape]

end Declaration

/-! ### Elements -/

namespace Element

/-- The kind is taken out of the object of a kind and other fields. -/
theorem cutKind?_ofMembers {fields : List (String × Json)}
    (h : (kindKey :: fields.map Prod.fst).Nodup) (kind : Json) :
    cutKind? (.ofMembers ((kindKey, kind) :: fields)) = some (kind, .ofMembers fields) := by
  have hkeys : (((kindKey, kind) :: fields).map Prod.fst).Nodup := h
  have hkind := Json.member?_keyed hkeys kindKey
  rw [List.lookup_cons_self] at hkind
  rw [Json.ofMembers_eq, cutKind?, hkind, Option.bind_eq_bind, Option.bind_some, Json.keyed_cons,
    List.filter_cons_of_neg (by simp), List.filter_eq_self.2, Json.ofMembers_eq]
  -- the other fields have other keys
  intro m hm
  obtain ⟨key, value, hfield, rfl⟩ := Json.mem_keyed_iff.1 hm
  have hne : key ≠ kindKey := fun e => (List.nodup_cons.1 h).1 (List.mem_map.2 ⟨_, hfield, e⟩)
  simpa using hne

theorem admits_toJson (element : Element) {mode : ReadingMode} (hdepth : 2 ≤ mode.depth) :
    mode.admits element.toJson = true := by
  have hone : 1 ≤ mode.depth := by omega
  have hinside : 1 ≤ (mode.inside 1).depth := ReadingMode.le_inside_depth hdepth
  have hshapes (shapes : List Shape) :
      (mode.inside 1).admits (.array (shapes.map Shape.toJson)) = true :=
    ReadingMode.admits_array_map hinside fun _ _ => ReadingMode.admits_string _ _
  cases element with
  | method declaration =>
    obtain ⟨owner, name, parameters, returns⟩ := declaration
    rw [toJson, ReadingMode.admits_ofMembers]
    cases returns <;> simp [hone, Declaration.members, hshapes, Shape.toJson]
  | _ =>
    rw [toJson, ReadingMode.admits_ofMembers]
    simp [hone, hshapes]

/-- An element of spellable shapes is read from its kind and its fields. -/
theorem ofJson?_toJson {element : Element} (h : element.IsSpellable) {mode : ReadingMode}
    (hdepth : 2 ≤ mode.depth) : Element.ofJson? mode element.toJson = some element := by
  rw [Element.ofJson?, if_pos (admits_toJson element hdepth)]
  cases element with
  | package name | type name =>
    rw [toJson, cutKind?_ofMembers (by simp [kindKey])]
    simp [kindOfJson?, ofKind?, kind, Json.fields?_ofMembers, Json.text?]
  | constructor owner parameters =>
    have hparameters : Json.all? Shape.ofJson? (.array (parameters.map Shape.toJson)) =
        some parameters := Shape.all?_ofJson?_map (h _ rfl).parameters
    rw [toJson, cutKind?_ofMembers (by simp [kindKey])]
    simp [kindOfJson?, ofKind?, kind, Json.fields?_ofMembers, Json.text?, Json.orElse,
      List.lookup_cons, hparameters]
  | method declaration =>
    have hkeys : (kindKey :: declaration.members.map Prod.fst).Nodup := by
      cases h : declaration.returns <;> simp [Declaration.members, h, kindKey]
    rw [toJson, cutKind?_ofMembers hkeys]
    simp [kindOfJson?, ofKind?, kind, Declaration.ofJson?_ofMembers (h _ rfl)]
  | field owner name | parameter owner name =>
    rw [toJson, cutKind?_ofMembers (by simp [kindKey])]
    simp [kindOfJson?, ofKind?, kind, Json.fields?_ofMembers, Json.text?, List.lookup_cons]

end Element

/-! ### Attachments -/

theorem Directive.ofJson?_toJson (directive : Directive) :
    Directive.ofJson? directive.toJson = some directive := by
  cases directive <;> rfl

namespace Attachment

theorem admits_toJson (attachment : Attachment) {mode : ReadingMode} (hdepth : 2 ≤ mode.depth) :
    mode.admits attachment.toJson = true := by
  have hone : 1 ≤ mode.depth := by omega
  have hinside : 1 ≤ (mode.inside 1).depth := ReadingMode.le_inside_depth hdepth
  cases attachment with
  | single directive =>
    rw [toJson]
    cases directive with
    | option value => simp [Directive.toJson, ReadingMode.admits_ofMembers, hone]
    | _ => simp [Directive.toJson]
  | options values =>
    have hvalues : (mode.inside 1).admits (.array (values.map .string)) = true :=
      ReadingMode.admits_array_map hinside fun _ _ => ReadingMode.admits_string _ _
    simp [toJson, ReadingMode.admits_ofMembers, hone, hvalues]

/-- An attachment is read again, in particular the values of options not as a directive. -/
theorem ofJson?_toJson (attachment : Attachment) {mode : ReadingMode} (hdepth : 2 ≤ mode.depth) :
    Attachment.ofJson? mode attachment.toJson = some attachment := by
  rw [Attachment.ofJson?, if_pos (attachment.admits_toJson hdepth)]
  cases attachment with
  | single directive => rw [toJson, Directive.ofJson?_toJson]
  | options values =>
    have hwritten : (options values).toJson =
        .object [(some "options", .array (values.map .string))] := rfl
    have hnone : Directive.ofJson? (.object [(some "options", .array (values.map .string))]) =
        none := rfl
    have hkeys : ([("options", Json.array (values.map .string))].map Prod.fst).Nodup := by simp
    have hfields := Json.fields?_ofMembers hkeys ["options"]
    rw [Json.ofMembers, List.map_cons, List.map_nil, Json.fields?] at hfields
    rw [hwritten, hnone]
    simp [optionsOfJson?, hfields, Json.texts?_array_map]

end Attachment

/-! ### Rounds -/

theorem Acceptance.ofJson?_toJson {a : Acceptance} (h : a.element.IsSpellable) {mode : ReadingMode}
    (hdepth : 4 ≤ mode.depth) : Acceptance.ofJson? mode a.toJson = some a := by
  have helement : Element.ofJson? (mode.inside 1) a.element.toJson = some a.element :=
    Element.ofJson?_toJson h (ReadingMode.le_inside_depth (by omega))
  have hattachments : Json.all? (Attachment.ofJson? (mode.inside 2))
      (.array (a.attachments.map Attachment.toJson)) = some a.attachments :=
    Json.all?_array_map fun attachment _ =>
      attachment.ofJson?_toJson (ReadingMode.le_inside_depth hdepth)
  simp [Acceptance.ofJson?, toJson, Json.fields?_ofMembers, List.lookup_cons, helement, Json.orElse,
    hattachments]

theorem Round.ofJson?_toJson {r : Round} (h : ∀ a ∈ r.elements, a.element.IsSpellable)
    {mode : ReadingMode} (hdepth : 6 ≤ mode.depth) : Round.ofJson? mode r.toJson = some r := by
  have helements : Json.all? (Acceptance.ofJson? (mode.inside 2))
      (.array (r.elements.map Acceptance.toJson)) = some r.elements :=
    Json.all?_array_map fun a ha =>
      Acceptance.ofJson?_toJson (h a ha) (ReadingMode.le_inside_depth hdepth)
  simp [Round.ofJson?, toJson, Json.fields?_ofMembers, List.lookup_cons, helements, Json.orElse,
    Json.bool?]

/-! ### Inputs -/

theorem Acceptance.admits_toJson (a : Acceptance) {mode : ReadingMode} (hdepth : 4 ≤ mode.depth) :
    mode.admits a.toJson = true := by
  have hone : 1 ≤ mode.depth := by omega
  have hinside : 1 + 2 ≤ (mode.inside 1).depth := ReadingMode.le_inside_depth hdepth
  have helement : (mode.inside 1).admits a.element.toJson = true :=
    a.element.admits_toJson (by omega)
  have hattachments :
      (mode.inside 1).admits (.array (a.attachments.map Attachment.toJson)) = true :=
    ReadingMode.admits_array_map (by omega) fun attachment _ =>
      attachment.admits_toJson (ReadingMode.le_inside_depth hinside)
  simp [toJson, ReadingMode.admits_ofMembers, hone, helement, hattachments]

theorem Round.admits_toJson (r : Round) {mode : ReadingMode} (hdepth : 6 ≤ mode.depth) :
    mode.admits r.toJson = true := by
  have hone : 1 ≤ mode.depth := by omega
  have hinside : 1 + 4 ≤ (mode.inside 1).depth := ReadingMode.le_inside_depth hdepth
  have helements : (mode.inside 1).admits (.array (r.elements.map Acceptance.toJson)) = true :=
    ReadingMode.admits_array_map (by omega) fun a _ =>
      a.admits_toJson (ReadingMode.le_inside_depth hinside)
  simp [toJson, ReadingMode.admits_ofMembers, hone, helements]

/-- An input is read from any text of a value that is taken in as a whole and stands for rounds. -/
theorem parseRounds_eq_ok {text : String} {value : Json} {rounds : List Round}
    (htext : Json.read? text = some value) (hadmits : ({} : ReadingMode).admits value = true)
    (hrounds : roundsOfJson? value = some rounds) : parseRounds text = .ok rounds := by
  unfold Json.read? at htext
  split at htext
  · next rest hread =>
    obtain ⟨hrest, htext⟩ := Option.ite_none_right_eq_some.1 htext
    cases htext
    simp [parseRounds, hread, hadmits, hrounds, hrest]
  · cases htext

theorem roundsOfJson?_array_map {rounds : List Round}
    (h : ∀ r ∈ rounds, ∀ a ∈ r.elements, a.element.IsSpellable) :
    roundsOfJson? (.array (rounds.map Round.toJson)) = some rounds := by
  have hall : Json.all? (Round.ofJson? { kindsByNumber := true })
      (.array (rounds.map Round.toJson)) = some rounds :=
    Json.all?_array_map fun r hr => Round.ofJson?_toJson (h r hr) (by decide)
  simp [roundsOfJson?, hall]

/-- One round is no list of rounds. -/
theorem roundsOfJson?_toJson {r : Round} (h : ∀ a ∈ r.elements, a.element.IsSpellable) :
    roundsOfJson? r.toJson = some [r] := by
  have hround : Round.ofJson? { kindsByNumber := true } r.toJson = some r :=
    Round.ofJson?_toJson h (by decide)
  have hnone : Json.all? (Round.ofJson? { kindsByNumber := true }) r.toJson = none := rfl
  simp [roundsOfJson?, hnone, hround]

/-! ### Diagnostics -/

theorem Code.ofJson?_toJson (c : Code) : Code.ofJson? c.toJson = some c := by
  obtain ⟨category, number⟩ := c
  have hnumber : (Json.ofNat number.toNat).uint16? = some number := by
    have hlt : number.toNat < 65536 := number.toNat_lt
    simp [Json.ofNat, Json.uint16?, JsonNumber.toNat?, hlt]
  have hcategory : Category.ofJson? category.toJson = some category := by
    cases category <;> rfl
  simp [Code.ofJson?, toJson, Json.fields?_ofMembers, List.lookup_cons, hnumber, hcategory]

theorem Severity.ofJson?_toJson (s : Severity) : Severity.ofJson? s.toJson = some s := by
  cases s <;> rfl

namespace Diagnostic

theorem map_fst_textsMember (key : String) (texts : List String) :
    (textsMember key texts).map Prod.fst = if texts.isEmpty then [] else [key] := by
  cases texts <;> rfl

theorem lookup_textsMember_of_ne {key other : String} (h : other ≠ key) (texts : List String) :
    (textsMember key texts).lookup other = none := by
  cases texts <;> simp [textsMember, List.lookup_cons, beq_false_of_ne h]

/-- Texts are read again, also when there are none and no member is written for them. -/
theorem orElse_lookup_textsMember (key : String) (texts : List String) :
    Json.orElse ((textsMember key texts).lookup key) Json.texts? [] = some texts := by
  cases texts with
  | nil => rfl
  | cons text texts =>
    rw [textsMember, if_neg (by simp), List.lookup_cons_self]
    exact Json.texts?_array_map _

theorem optional_lookup_location (location : Option String) :
    Json.optional ((location.elim [] fun l => [("location", Json.string l)]).lookup "location")
      Json.text? = some location := by
  cases location <;> rfl

theorem ofJson?_toJson (d : Diagnostic) : Diagnostic.ofJson? d.toJson = some d := by
  have hkeys : (([("severity", d.severity.toJson), ("code", d.code.toJson),
      ("message", .string d.message)] ++
      d.location.elim [] (fun l => [("location", Json.string l)]) ++
      textsMember "notes" d.notes ++ textsMember "help" d.help).map Prod.fst).Nodup := by
    cases d.location <;> cases d.notes <;> cases d.help <;> simp [map_fst_textsMember]
  have hlocation (key : String) (h : key ≠ "location") :
      (d.location.elim [] fun l => [("location", Json.string l)]).lookup key = none := by
    cases d.location <;> simp [List.lookup_cons, beq_false_of_ne h]
  rw [Diagnostic.ofJson?, toJson, Json.fields?_ofMembers hkeys]
  simp [List.lookup_append, List.lookup_cons, hlocation, lookup_textsMember_of_ne,
    Severity.ofJson?_toJson, Code.ofJson?_toJson, Json.text?, orElse_lookup_textsMember,
    optional_lookup_location]

end Diagnostic

/-! ### What is printed -/

theorem Shape.isPrintable_array_map (shapes : List Shape) :
    (Json.array (shapes.map toJson)).IsPrintable :=
  Json.isPrintable_array_map fun _ _ => .string _

theorem Declaration.isPrintable_of_mem_members {d : Declaration} :
    ∀ m ∈ d.members, m.2.IsPrintable := by
  obtain ⟨owner, name, parameters, returns⟩ := d
  cases returns <;>
    simp [members, Shape.isPrintable_array_map, Shape.toJson, Json.IsPrintable.string]

theorem Element.isPrintable_toJson (element : Element) : element.toJson.IsPrintable := by
  refine Json.isPrintable_ofMembers ?_
  rw [List.forall_mem_cons]
  refine ⟨.string _, ?_⟩
  cases element with
  | method declaration => exact declaration.isPrintable_of_mem_members
  | _ => simp [Shape.isPrintable_array_map, Json.IsPrintable.string]

theorem Attachment.isPrintable_toJson (attachment : Attachment) :
    attachment.toJson.IsPrintable := by
  cases attachment with
  | single directive =>
    cases directive with
    | option value => exact Json.isPrintable_ofMembers (by simp [Json.IsPrintable.string])
    | _ => exact .string _
  | options values =>
    have hvalues : (Json.array (values.map .string)).IsPrintable :=
      Json.isPrintable_array_map fun value _ => .string value
    exact Json.isPrintable_ofMembers (by simpa using hvalues)

theorem Acceptance.isPrintable_toJson (a : Acceptance) : a.toJson.IsPrintable := by
  have hattachments : (Json.array (a.attachments.map Attachment.toJson)).IsPrintable :=
    Json.isPrintable_array_map fun attachment _ => attachment.isPrintable_toJson
  exact Json.isPrintable_ofMembers (by simp [a.element.isPrintable_toJson, hattachments])

theorem Round.isPrintable_toJson (r : Round) : r.toJson.IsPrintable := by
  have helements : (Json.array (r.elements.map Acceptance.toJson)).IsPrintable :=
    Json.isPrintable_array_map fun a _ => a.isPrintable_toJson
  exact Json.isPrintable_ofMembers (by simp [helements, Json.IsPrintable.bool])

/-! ### What was read -/

/-- A round that was read from some value. -/
def Round.WasRead (r : Round) : Prop :=
  ∃ mode value, Round.ofJson? mode value = some r

theorem Round.WasRead.isSpellable {r : Round} (h : r.WasRead) :
    ∀ a ∈ r.elements, a.element.IsSpellable := by
  obtain ⟨mode, value, h⟩ := h
  exact isSpellable_of_ofJson? h

/-- A list of rounds that were read is an input, in any text for it. -/
theorem parseRounds_of_read?_array {rounds : List Round} (h : ∀ r ∈ rounds, r.WasRead)
    {text : String} (htext : Json.read? text = some (.array (rounds.map Round.toJson))) :
    parseRounds text = .ok rounds := by
  have hadmits : ({} : ReadingMode).admits (.array (rounds.map Round.toJson)) = true :=
    ReadingMode.admits_array_map (by decide) fun r _ => r.admits_toJson (by decide)
  exact parseRounds_eq_ok htext hadmits (roundsOfJson?_array_map fun r hr => (h r hr).isSpellable)

/-- One round that was read is an input, in any text for it. -/
theorem parseRounds_of_read?_toJson {r : Round} (h : r.WasRead) {text : String}
    (htext : Json.read? text = some r.toJson) : parseRounds text = .ok [r] :=
  parseRounds_eq_ok htext (r.admits_toJson (by decide)) (roundsOfJson?_toJson h.isSpellable)

/-- What was read is written in such a way that it is read again, in a mode and as an input. -/
structure ReadsAgain (mode : ReadingMode) : Prop where
  declaration : ∀ {value : Json} {d : Declaration}, Declaration.ofJson? value = some d →
    Declaration.ofJson? d.toJson = some d
  element : ∀ {origin : ReadingMode} {value : Json} {element : Element},
    Element.ofJson? origin value = some element →
      Element.ofJson? mode element.toJson = some element
  attachment : ∀ {origin : ReadingMode} {value : Json} {attachment : Attachment},
    Attachment.ofJson? origin value = some attachment →
      Attachment.ofJson? mode attachment.toJson = some attachment
  acceptance : ∀ {origin : ReadingMode} {value : Json} {a : Acceptance},
    Acceptance.ofJson? origin value = some a → Acceptance.ofJson? mode a.toJson = some a
  round : ∀ {origin : ReadingMode} {value : Json} {r : Round},
    Round.ofJson? origin value = some r → Round.ofJson? mode r.toJson = some r
  /-- Any text for the list of the rounds is an input of these rounds. -/
  rounds : ∀ {rounds : List Round}, (∀ r ∈ rounds, r.WasRead) → ∀ {text : String},
    Json.read? text = some (.array (rounds.map Round.toJson)) → parseRounds text = .ok rounds
  /-- Any text for one round is an input of this round alone. -/
  oneRound : ∀ {r : Round}, r.WasRead → ∀ {text : String}, Json.read? text = some r.toJson →
    parseRounds text = .ok [r]
  /-- What is printed for rounds is such a text. -/
  printed : ∀ {rounds : List Round}, (∀ r ∈ rounds, r.WasRead) →
    parseRounds (Json.pretty (.array (rounds.map Round.toJson))) = .ok rounds
  /-- What is printed for one round is such a text. -/
  onePrinted : ∀ {r : Round}, r.WasRead → parseRounds r.toJson.pretty = .ok [r]
  diagnostic : ∀ d : Diagnostic, Diagnostic.ofJson? d.toJson = some d

/-- What was read is read again from what is written for it, wherever six levels of nesting are
admitted. -/
theorem readsAgain {mode : ReadingMode} (hdepth : 6 ≤ mode.depth) : ReadsAgain mode where
  declaration h := Declaration.ofJson?_ofMembers (Declaration.isSpellable_of_ofJson? h)
  element h := Element.ofJson?_toJson (Element.isSpellable_of_ofJson? h) (by omega)
  attachment _ := Attachment.ofJson?_toJson _ (by omega)
  acceptance h := Acceptance.ofJson?_toJson (Acceptance.isSpellable_of_ofJson? h) (by omega)
  round h := Round.ofJson?_toJson (Round.isSpellable_of_ofJson? h) hdepth
  rounds h _ htext := parseRounds_of_read?_array h htext
  oneRound h _ htext := parseRounds_of_read?_toJson h htext
  printed h := parseRounds_of_read?_array h <|
    Json.read?_pretty (Json.isPrintable_array_map fun r _ => r.isPrintable_toJson)
  onePrinted {r} h := parseRounds_of_read?_toJson h (Json.read?_pretty r.isPrintable_toJson)
  diagnostic d := d.ofJson?_toJson

/-- A round in array form: the flag is left out, a type is spelled with blanks, and a keyword is a
member. -/
def looseRound : Json :=
  .array [.array [.array
    [.array [.string "method", .string "p.A", .string "m", .array [.string " int [] "]],
      .array [.object [(some "inline", .null)]]]]]

theorem readsAgain_looseRound : ∃ r : Round, Round.ofJson? {} looseRound = some r ∧
    Round.ofJson? { kindsByNumber := true } r.toJson = some r ∧
    parseRounds r.toJson.pretty = .ok [r] := by
  have hread : Round.ofJson? {} looseRound = some
      { elements := [{ element := .method ⟨"p.A", "m", [.array (.primitive .int)], none⟩
                       attachments := [.single .inline] }] } := by
    decide +kernel
  have hagain : ReadsAgain { kindsByNumber := true } := readsAgain (by decide)
  exact ⟨_, hread, hagain.round hread, hagain.onePrinted ⟨_, _, hread⟩⟩

end CompilerHints
