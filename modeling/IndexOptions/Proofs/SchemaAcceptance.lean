import IndexOptions.Proofs.ValidParts
import Mathlib.Data.List.Forall2

/-!
# Which documents are schemas

The documents of schemas, said without their readers:

- `Schema.Shaped`: the parts of a schema are there and valid, each taken alone (`Schema.shaped_iff`);
- `Schema.Acceptable`: besides, each analyzer that is named is prebuilt or declared.

What is wrong with the shape is the list of the problems of all parts, in order (`Schema.shapeProblems`,
`Schema.problems_readParts`); the first reference to an unknown analyzer (`Schema.referenceFault?`) is looked for only
if that list is empty. `Schema.Reported` lists what is told of a document, and `Schema.ofObject_acceptable` says that
the acceptable documents are built and the reported problems of all others are told.
-/

namespace IndexOptions

open Reading

/-! ## Schemas -/

namespace Schema

/-! ### Acceptable documents -/

/-- The parts of a schema are there and valid, each taken alone, and there are no other parts. -/
structure Shaped (members : Entries Document) : Prop where
  declared : ∀ e ∈ members, e.1 ∈ (["default_analyzer", "analyzers", "fields"] : List Text)
  defaultAnalyzer : ∀ v ∈ members.get? "default_analyzer", HoldsName v
  analyzers : ∀ v ∈ members.get? "analyzers",
    ∃ es : Entries Document, v = .object es ∧ ∀ e ∈ es, Analyzer.Valid e.2
  fields : ∃ v ∈ members.get? "fields",
    ∃ es : Entries Document, v = .object es ∧ es ≠ [] ∧ ∀ e ∈ es, Mapper.Valid e.2

/-- The default analyzer of a document. -/
def defaultName (members : Entries Document) : Text :=
  match members.get? "default_analyzer" with
  | some (.text t) => t
  | _ => "standard"

/-- The members of a part of a document. -/
def entriesOf (members : Entries Document) (part : Text) : Entries Document :=
  match members.get? part with
  | some (.object es) => es
  | _ => []

/-- An analyzer is prebuilt or declared in a document. -/
def IsKnown (members : Entries Document) (analyzer : Text) : Prop :=
  analyzer ∈ Analyzer.prebuilt ∨ analyzer ∈ (entriesOf members "analyzers").keys

instance (members : Entries Document) : DecidablePred (IsKnown members) := fun _ => inferInstanceAs (Decidable (_ ∨ _))

/-- The document has the shape of a schema, and each analyzer that is named is known. -/
structure Acceptable (members : Entries Document) : Prop extends Shaped members where
  knows_default : IsKnown members (defaultName members)
  knows_named : ∀ e ∈ entriesOf members "fields", ∀ a ∈ Mapper.namedAnalyzer? e.2, IsKnown members a

/-! ### What is wrong with a document -/

/-- The problems of a part, which stand below its name. -/
def partProblems (members : Entries Document) (part : Text) (problems : Document → List Problem)
    (ifMissing : List Problem) : List Problem :=
  match members.get? part with
  | some v => (problems v).map (Problem.under (.key part))
  | none => ifMissing

/-- The problems of all members of an object, each taken alone. -/
def entriesProblems {α : Type} (read : Document → Checked α) : Document → List Problem
  | .object es => es.flatMap fun (name, v) => (read v).problems.map (Problem.under (.key name))
  | v => [⟨.notObject, [], v⟩]

def fieldsProblems : Document → List Problem
  | .object [] => [⟨.noMembers, [], .object []⟩]
  | v => entriesProblems Mapper.read v

/-- The problems of all parts: the default analyzer, the analyzers and the fields in their order, and the members that
are not declared. -/
def shapeProblems (members : Entries Document) : List Problem :=
  partProblems members "default_analyzer" (fun v => (name v).problems) [] ++
    (partProblems members "analyzers" (entriesProblems Analyzer.read) [] ++
      (partProblems members "fields" fieldsProblems [⟨.missing, [.key "fields"], .object members⟩] ++
        undeclared ["default_analyzer", "analyzers", "fields"] members))

/-- The first reference to an unknown analyzer: the default analyzer, or else that of the first field. -/
def referenceFault? (members : Entries Document) : Option Text :=
  if IsKnown members (defaultName members) then
    (entriesOf members "fields").findSome? fun (field, v) =>
      (Mapper.namedAnalyzer? v).bind fun analyzer =>
        if IsKnown members analyzer then none
        else some ("Unknown analyzer " ++ analyzer.quoted ++ " in mapper " ++ field.quoted)
  else some ("Unknown default analyzer " ++ (defaultName members).quoted)

variable {members : Entries Document} {s : Schema}

theorem referenceFault?_eq_none_iff :
    referenceFault? members = none ↔ IsKnown members (defaultName members) ∧
      ∀ e ∈ entriesOf members "fields", ∀ a ∈ Mapper.namedAnalyzer? e.2, IsKnown members a := by
  unfold referenceFault?
  split
  · next hdefault =>
    rw [List.findSome?_eq_none_iff]
    simp only [hdefault, true_and]
    refine forall₂_congr fun e _ => ?_
    cases Mapper.namedAnalyzer? e.2 <;> simp
  · next hdefault => simp [hdefault]

/-! ### Entries -/

section Entries

variable {α : Type} {read : Document → Checked α} {es : Entries Document} {as : Entries α}

/-- Entries are read member by member. -/
theorem readEntries_eq_ok_iff :
    readEntries read es = .ok as ↔ List.Forall₂ (fun e a => e.1 = a.1 ∧ read e.2 = .ok a.2) es as := by
  induction es generalizing as with
  | nil => simp [readEntries, Checked.all, eq_comm]
  | cons e es ih =>
    obtain ⟨name, v⟩ := e
    have hcons : readEntries read ((name, v) :: es) =
        ((Checked.under (.key name) ((read v).map fun a => (name, a))).and (readEntries read es)).map
          fun p => p.1 :: p.2 := rfl
    rw [hcons, List.forall₂_cons_left_iff]
    simp only [Checked.map_eq_ok_iff, Prod.exists, Checked.and_eq_ok_iff, Checked.under_eq_ok_iff, ih, Prod.mk.injEq]
    constructor
    · rintro ⟨_, a, bs, ⟨⟨_, ha, rfl, rfl⟩, hbs⟩, rfl⟩
      exact ⟨_, _, _, ⟨rfl, ha⟩, hbs, rfl⟩
    · rintro ⟨_, a, bs, ⟨rfl, ha⟩, hbs, rfl⟩
      exact ⟨_, a, bs, ⟨⟨a, ha, rfl, rfl⟩, hbs⟩, rfl⟩

theorem exists_readEntries_iff : (∃ as, readEntries read es = .ok as) ↔ ∀ e ∈ es, ∃ a, read e.2 = .ok a := by
  simp only [readEntries_eq_ok_iff]
  induction es with
  | nil => simp
  | cons e es ih =>
    rw [List.forall_mem_cons, ← ih]
    simp only [List.forall₂_cons_left_iff]
    constructor
    · rintro ⟨_, a, as, ⟨-, ha⟩, has, rfl⟩
      exact ⟨⟨_, ha⟩, as, has⟩
    · rintro ⟨⟨a, ha⟩, as, has⟩
      exact ⟨_, (e.1, a), as, ⟨rfl, ha⟩, has, rfl⟩

theorem keys_of_readEntries (h : readEntries read es = .ok as) : as.keys = es.keys := by
  rw [readEntries_eq_ok_iff] at h
  induction h with
  | nil => rfl
  | cons hea _ ih => exact List.cons_eq_cons.mpr ⟨hea.1.symm, ih⟩

theorem problems_readEntries (read : Document → Checked α) (es : Entries Document) :
    (readEntries read es).problems = entriesProblems read (.object es) := by
  rw [readEntries, Checked.problems_all, List.flatMap_map]
  refine List.flatMap_congr fun e _ => ?_
  rw [Checked.problems_under, Checked.problems_map]

theorem explained_readEntries (h : ∀ v, (read v).Explained) : (readEntries read es).Explained := by
  refine Checked.explained_all fun x hx => ?_
  obtain ⟨e, -, rfl⟩ := List.mem_map.mp hx
  exact Checked.explained_under (Checked.explained_map (h _) _) _

end Entries

/-! ### Parts -/

theorem exists_readAnalyzers_iff {v : Document} :
    (∃ as, readAnalyzers v = .ok as) ↔ ∃ es : Entries Document, v = .object es ∧ ∀ e ∈ es, Analyzer.Valid e.2 := by
  cases v with
  | object es =>
    show (∃ as, readEntries Analyzer.read es = .ok as) ↔ _
    rw [exists_readEntries_iff]
    simp only [Document.object.injEq, exists_eq_left', Analyzer.valid_iff]
  | _ => simp [readAnalyzers, Checked.refuse]

theorem exists_readFields_iff {v : Document} :
    (∃ ms, readFields v = .ok ms) ↔
      ∃ es : Entries Document, v = .object es ∧ es ≠ [] ∧ ∀ e ∈ es, Mapper.Valid e.2 := by
  simp only [readFields_eq_ok_iff, Mapper.valid_iff, ← exists_readEntries_iff]
  constructor
  · rintro ⟨ms, es, rfl, hne, h⟩
    exact ⟨es, rfl, hne, ms, h⟩
  · rintro ⟨es, rfl, hne, ms, h⟩
    exact ⟨ms, es, rfl, hne, h⟩

/-- The parts of a schema are read from the documents of its shape. -/
theorem shaped_iff : Shaped members ↔ ∃ s, readParts members = .ok s := by
  simp only [readParts_eq_ok_iff]
  constructor
  · rintro ⟨hdeclared, hdefault, hanalyzers, hfields⟩
    have hnames : ∀ e ∈ members, e.1.isEncodable := by
      intro e he
      have hname := hdeclared e he
      simp only [List.mem_cons, List.not_mem_nil, or_false] at hname
      rcases hname with h | h | h <;> rw [h] <;> exact Text.isEncodable_ofString _
    obtain ⟨d, hd⟩ := exists_optionalField_iff.mpr fun v hv => (holdsName_iff v).mp (hdefault v hv)
    obtain ⟨as, has⟩ := exists_optionalField_iff.mpr fun v hv => exists_readAnalyzers_iff.mpr (hanalyzers v hv)
    obtain ⟨v, hv, hv'⟩ := hfields
    obtain ⟨ms, hms⟩ := exists_requiredField_iff.mpr ⟨v, hv, exists_readFields_iff.mpr hv'⟩
    exact ⟨⟨d, as, ms⟩, hnames, hd, has, hms, hdeclared⟩
  · rintro ⟨s, -, hd, has, hms, hdeclared⟩
    refine ⟨hdeclared, fun v hv => ?_, fun v hv => ?_, ?_⟩
    · exact (holdsName_iff v).mpr (exists_optionalField_iff.mp ⟨_, hd⟩ v hv)
    · exact exists_readAnalyzers_iff.mp (exists_optionalField_iff.mp ⟨_, has⟩ v hv)
    · obtain ⟨v, hv, h⟩ := exists_requiredField_iff.mp ⟨_, hms⟩
      exact ⟨v, hv, exists_readFields_iff.mp h⟩

/-! ### Problems of the shape -/

theorem problems_readAnalyzers (v : Document) : (readAnalyzers v).problems = entriesProblems Analyzer.read v := by
  cases v with
  | object es => exact problems_readEntries _ _
  | _ => rfl

theorem problems_readFields (v : Document) : (readFields v).problems = fieldsProblems v := by
  cases v with
  | object es =>
    cases es with
    | nil => rfl
    | cons e es => exact problems_readEntries _ _
  | _ => rfl

section

variable {α : Type} {part : Text} {default : α} {read : Document → Checked α}

theorem problems_optionalField :
    (optionalField members part default read).problems = partProblems members part (fun v => (read v).problems) [] := by
  unfold optionalField partProblems
  cases members.get? part with
  | none => rfl
  | some v => exact Checked.problems_under _ _

theorem problems_requiredField :
    (requiredField members part read).problems =
      partProblems members part (fun v => (read v).problems) [⟨.missing, [.key part], .object members⟩] := by
  unfold requiredField partProblems
  cases members.get? part with
  | none => rfl
  | some v => exact Checked.problems_under _ _

end

/-- No part hides the problems of another. -/
theorem problems_readParts (hnames : ∀ e ∈ members, e.1.isEncodable) :
    (readParts members).problems = shapeProblems members := by
  rw [readParts, encodableNames_bind hnames]
  simp only [Checked.problems_map, Checked.problems_and, problems_optionalField, problems_requiredField,
    problems_readAnalyzers, problems_readFields, problems_closed]
  rfl

theorem explained_readParts (members : Entries Document) : (readParts members).Explained := by
  have hanalyzers : ∀ v, (readAnalyzers v).Explained := by
    intro v
    unfold readAnalyzers
    split
    · exact explained_readEntries Analyzer.explained_read
    · exact Checked.explained_refuse _ _
  have hfields : ∀ v, (readFields v).Explained := by
    intro v
    unfold readFields
    split
    · exact Checked.explained_refuse _ _
    · exact explained_readEntries Mapper.explained_read
    · exact Checked.explained_refuse _ _
  refine Checked.explained_bind (explained_encodableNames _) fun _ => Checked.explained_map ?_ _
  exact Checked.explained_and (explained_optionalField explained_name)
    (Checked.explained_and (explained_optionalField hanalyzers)
      (Checked.explained_and (explained_requiredField hfields) (explained_closed _ _)))

/-- A document without problems of its shape has the shape of a schema. -/
theorem shapeProblems_eq_nil_iff (hnames : ∀ e ∈ members, e.1.isEncodable) :
    shapeProblems members = [] ↔ Shaped members := by
  rw [← problems_readParts hnames, Checked.problems_eq_nil_iff (explained_readParts members), shaped_iff]

/-! ### References -/

/-- Lists that are related member by member have the same first finding. -/
theorem findSome?_of_forall₂ {α β γ δ : Type} {R : α → β → Prop} {f : α → Option γ} {g : β → Option δ} {write : δ → γ}
    {as : List α} {bs : List β} (h : List.Forall₂ R as bs) (hR : ∀ a b, R a b → f a = (g b).map write) :
    as.findSome? f = (bs.findSome? g).map write := by
  induction h with
  | nil => rfl
  | cons hab _ ih =>
    rw [List.findSome?_cons, List.findSome?_cons, hR _ _ hab]
    cases g _ with
    | none => exact ih
    | some c => rfl

section References

variable (h : readParts members = .ok s)
include h

theorem defaultName_of_readParts : defaultName members = s.defaultAnalyzer := by
  obtain ⟨-, hd, -⟩ := readParts_eq_ok_iff.mp h
  unfold defaultName
  rcases optionalField_eq_ok_iff.mp hd with ⟨hget, hstandard⟩ | ⟨v, hget, hv⟩
  · rw [hget, hstandard]
  · obtain ⟨rfl, -⟩ := name_eq_ok_iff.mp hv
    rw [hget]

theorem isKnown_iff_knows {analyzer : Text} : IsKnown members analyzer ↔ s.knows analyzer := by
  obtain ⟨-, -, has, -⟩ := readParts_eq_ok_iff.mp h
  have hkeys : (entriesOf members "analyzers").keys = s.analyzers.keys := by
    unfold entriesOf
    rcases optionalField_eq_ok_iff.mp has with ⟨hget, hnil⟩ | ⟨v, hget, hv⟩
    · rw [hget, hnil]
      rfl
    · rw [hget]
      cases v with
      | object es => exact (keys_of_readEntries hv).symm
      | _ => cases hv
  rw [IsKnown, hkeys, ← Entries.has_iff, knows, Bool.or_eq_true, List.contains_iff_mem]

theorem fields_of_readParts :
    List.Forall₂ (fun e m => e.1 = m.1 ∧ Mapper.read e.2 = .ok m.2) (entriesOf members "fields") s.fields := by
  obtain ⟨-, -, -, hms, -⟩ := readParts_eq_ok_iff.mp h
  obtain ⟨v, hget, hv⟩ := requiredField_eq_ok_iff.mp hms
  obtain ⟨es, rfl, -, hread⟩ := readFields_eq_ok_iff.mp hv
  rw [entriesOf, hget]
  exact readEntries_eq_ok_iff.mp hread

/-- The first unknown reference of the fields is the same in the document. -/
theorem unknownReference?_of_readParts :
    ((entriesOf members "fields").findSome? fun (field, v) =>
      (Mapper.namedAnalyzer? v).bind fun analyzer =>
        if IsKnown members analyzer then none
        else some ("Unknown analyzer " ++ analyzer.quoted ++ " in mapper " ++ field.quoted)) =
      s.unknownReference?.map fun (field, analyzer) =>
        "Unknown analyzer " ++ analyzer.quoted ++ " in mapper " ++ field.quoted := by
  refine findSome?_of_forall₂ (fields_of_readParts h) fun (field, v) (field', m) hem => ?_
  obtain ⟨rfl, hread⟩ : field = field' ∧ Mapper.read v = .ok m := hem
  simp only [← Mapper.analyzer?_of_read hread, isKnown_iff_knows h]
  cases m.analyzer? with
  | none => rfl
  | some analyzer => cases hknown : s.knows analyzer <;> simp [hknown]

/-- The references of a schema are checked as those of its document. -/
theorem checkReferences_of_readParts (whole : Document) :
    checkReferences whole s = match referenceFault? members with
      | some reason => Checked.refuse (.refused reason) whole
      | none => .ok s := by
  unfold checkReferences referenceFault?
  rw [unknownReference?_of_readParts h, defaultName_of_readParts h]
  simp only [isKnown_iff_knows h]
  cases hknown : s.knows s.defaultAnalyzer with
  | false => simp
  | true => cases s.unknownReference? <;> simp

end References

/-! ### Acceptance -/

theorem acceptable_iff : Acceptable members ↔ Shaped members ∧ referenceFault? members = none := by
  rw [referenceFault?_eq_none_iff]
  constructor
  · intro h
    exact ⟨h.toShaped, h.knows_default, h.knows_named⟩
  · rintro ⟨hshaped, hdefault, hnamed⟩
    exact ⟨hshaped, hdefault, hnamed⟩

/-- A name without UTF-8 form is the only problem that is reported. -/
theorem ofMembers_of_not_encodable (h : ¬∀ e ∈ members, e.1.isEncodable) :
    ofMembers members = .error [⟨.notUnicode, [], .object members⟩] := by
  have hnames : encodableNames members = .error [⟨.notUnicode, [], .object members⟩] := by
    rw [encodableNames, if_neg]
    simpa [Entries.keys] using h
  rw [ofMembers, readParts, hnames]
  rfl

theorem ofMembers_of_shapeProblems (hnames : ∀ e ∈ members, e.1.isEncodable) (h : shapeProblems members ≠ []) :
    ofMembers members = .error (shapeProblems members) := by
  rw [← problems_readParts hnames] at h ⊢
  rw [ofMembers, Checked.eq_error_of_problems h]
  rfl

theorem ofMembers_of_shaped (h : Shaped members) :
    ∃ s, ofMembers members = match referenceFault? members with
      | some reason => Checked.refuse (.refused reason) (.object members)
      | none => .ok s := by
  obtain ⟨s, hs⟩ := shaped_iff.mp h
  refine ⟨s, ?_⟩
  rw [← checkReferences_of_readParts hs, ofMembers, hs]
  rfl

/-- The problems that are told of a document that is no schema. -/
inductive Reported (members : Entries Document) : List Problem → Prop
  /-- A name without UTF-8 form is all that is told. -/
  | unencodable (hnames : ¬∀ e ∈ members, e.1.isEncodable) : Reported members [⟨.notUnicode, [], .object members⟩]
  /-- All problems of all parts. -/
  | shape (hnames : ∀ e ∈ members, e.1.isEncodable) (hshape : shapeProblems members ≠ []) :
    Reported members (shapeProblems members)
  /-- The first reference to an unknown analyzer, in a document with the shape of a schema. -/
  | reference (hshape : shapeProblems members = []) {reason : Text} (hreason : referenceFault? members = some reason) :
    Reported members [⟨.refused reason, [], .object members⟩]

theorem ofMembers_cases (members : Entries Document) :
    (Acceptable members ∧ ∃ s, ofMembers members = .ok s) ∨
      (¬Acceptable members ∧ ∃ ps, ofMembers members = .error ps ∧ Reported members ps) := by
  by_cases hnames : ∀ e ∈ members, e.1.isEncodable
  · have hiff := shapeProblems_eq_nil_iff hnames
    by_cases hshape : shapeProblems members = []
    · obtain ⟨s, hs⟩ := ofMembers_of_shaped (hiff.mp hshape)
      cases hfault : referenceFault? members with
      | none =>
        rw [hfault] at hs
        exact Or.inl ⟨acceptable_iff.mpr ⟨hiff.mp hshape, hfault⟩, s, hs⟩
      | some reason =>
        rw [hfault] at hs
        have hnot : ¬Acceptable members := by
          rw [acceptable_iff, hfault]
          rintro ⟨-, ⟨⟩⟩
        exact Or.inr ⟨hnot, _, hs, .reference hshape hfault⟩
    · have hnot : ¬Acceptable members := fun h => hshape (hiff.mpr h.toShaped)
      exact Or.inr ⟨hnot, _, ofMembers_of_shapeProblems hnames hshape, .shape hnames hshape⟩
  · have hnot : ¬Acceptable members := by
      intro h
      obtain ⟨s, hs⟩ := shaped_iff.mp h.toShaped
      exact hnames (readParts_eq_ok_iff.mp hs).1
    exact Or.inr ⟨hnot, _, ofMembers_of_not_encodable hnames, .unencodable hnames⟩

/-- **The documents that are schemas, and what is wrong with the others.** A schema is built from the acceptable
documents and from no others. A document that is refused is refused with the lines of the reported problems, joined: the
problems of all parts in order, or, if there are none, the first reference to an unknown analyzer; only a name without
UTF-8 form hides the rest. -/
theorem ofObject_acceptable (members : Entries Document) :
    ((∃ s, ofObject members = .ok s) ↔ Acceptable members) ∧
      ∀ failure, ofObject members = .error failure →
        ∃ ps, Reported members ps ∧ failure = .schema (.invalid ps) ∧
          failure.message = Text.join "; " (ps.map Problem.line) := by
  rcases ofMembers_cases members with ⟨hacceptable, s, hs⟩ | ⟨hnot, ps, hps, hreported⟩
  · have hok : ofObject members = .ok s := ofObject_eq_ok_iff.mpr hs
    refine ⟨⟨fun _ => hacceptable, fun _ => ⟨s, hok⟩⟩, fun failure h => ?_⟩
    rw [hok] at h
    cases h
  · have herror : ofObject members = .error (.schema (.invalid ps)) := by
      rw [ofObject, hps]
      rfl
    refine ⟨⟨?_, fun h => absurd h hnot⟩, fun failure h => ?_⟩
    · rintro ⟨s, hs⟩
      rw [herror] at hs
      cases hs
    · rw [herror] at h
      cases h
      exact ⟨ps, hreported, rfl, rfl⟩

/-- A document with a problem in each part. -/
def faultyMembers : Entries Document :=
  [("colour", .text "red"), ("fields", .object [("a", .object [("type", .text "string"), ("column", .text [])])]),
    ("analyzers", .object [("b", .object [("type", .text "snowball")])]), ("default_analyzer", .text [])]

/-- The problems are told part by part, whatever the order of the parts. -/
theorem ofObject_acceptable_faulty :
    ¬Acceptable faultyMembers ∧ ∃ failure, ofObject faultyMembers = .error failure ∧
      failure.message = Text.join "; " ["default_analyzer: String should have at least 1 character",
        "analyzers.b.snowball.language: Field required",
        "fields.a.string.column: String should have at least 1 character",
        "colour: Extra inputs are not permitted"] := by
  have hfails : ofObject faultyMembers = .error (.schema (.invalid (shapeProblems faultyMembers))) := by rfl
  obtain ⟨hiff, herror⟩ := ofObject_acceptable faultyMembers
  obtain ⟨ps, -, hps, hmessage⟩ := herror _ hfails
  cases hps
  refine ⟨fun h => ?_, _, hfails, hmessage.trans ?_⟩
  · obtain ⟨s, hs⟩ := hiff.mpr h
    rw [hfails] at hs
    cases hs
  · decide +kernel

/-- One half of a surrogate pair alone, which has no UTF-8 form. -/
def loneHalf : Text := [CodePoint.ofNat 0xD800]

/-- A document whose default analyzer is declared under a name without UTF-8 form. -/
def loneHalfMembers : Entries Document :=
  [("default_analyzer", .text loneHalf),
    ("analyzers", .object [(loneHalf, .object [("type", .text "snowball"), ("language", .text "x")])]),
    ("fields", .object [("a", .object [("type", .text "string")])])]

/-- A document with an undeclared member that has no UTF-8 form, and another problem. -/
def hiddenMembers : Entries Document :=
  [(loneHalf, .integer 1), ("default_analyzer", .text []),
    ("fields", .object [("a", .object [("type", .text "string")])])]

/-- Texts without UTF-8 form make a difference: a default analyzer that is not empty, and declared, is refused with such
a name, and an undeclared member with such a name hides the problems of the other parts. -/
theorem acceptable_not_without_utf8 :
    ((∀ e ∈ loneHalfMembers, e.1 ∈ (["default_analyzer", "analyzers", "fields"] : List Text)) ∧
      loneHalfMembers.get? "default_analyzer" = some (.text loneHalf) ∧ loneHalf ≠ [] ∧
      loneHalf ∈ (entriesOf loneHalfMembers "analyzers").keys ∧
      (∀ e ∈ entriesOf loneHalfMembers "analyzers", Analyzer.Valid e.2) ∧
      entriesOf loneHalfMembers "fields" ≠ [] ∧
      (∀ e ∈ entriesOf loneHalfMembers "fields", Mapper.Valid e.2 ∧ Mapper.namedAnalyzer? e.2 = none) ∧
      ∀ s, ofObject loneHalfMembers ≠ .ok s) ∧
    ⟨.tooShort 1, [.key "default_analyzer"], .text []⟩ ∈ shapeProblems hiddenMembers ∧
      ofObject hiddenMembers = .error (.schema (.invalid [⟨.notUnicode, [], .object hiddenMembers⟩])) := by
  refine ⟨⟨by simp [loneHalfMembers], rfl, by decide, List.mem_singleton_self _, ?_, List.cons_ne_nil _ _, ?_, ?_⟩, ?_,
    rfl⟩
  · intro e he
    cases List.mem_singleton.mp he
    exact Analyzer.valid_iff.mpr ⟨.snowball "x" none, rfl⟩
  · intro e he
    cases List.mem_singleton.mp he
    exact ⟨Mapper.valid_iff.mpr ⟨⟨false, .string none true⟩, rfl⟩, rfl⟩
  · intro s hs
    cases hs
  · exact List.mem_append_left _ (List.mem_singleton_self _)

end Schema

end IndexOptions
