import IndexOptions.Schema.Build
import IndexOptions.Proofs.Reading

/-!
# Schemas and their documents

What a reader lets through is well formed, and the document with all parts of something well formed is read as that
again. Both hold of analyzers, of mappers and of whole schemas:

- `Analyzer.wellFormed_of_read` and `Analyzer.read_toDocument`, `Mapper.wellFormed_of_read` and
  `Mapper.read_toDocument`;
- `Schema.wellFormed_of_ofMembers` and `Schema.ofMembers_written`, where the references to analyzers are checked too.

So a schema that was built is built again from its own document.
-/

namespace IndexOptions

open Reading

/-! ## Analyzers -/

namespace Analyzer

/-- The class or the language has a name. -/
def WellFormed : Analyzer → Prop
  | classpath className => IsName className
  | snowball language _ => IsName language

/-- An analyzer is read from an object whose tag is known, by the reader of that tag. -/
theorem read_eq_ok_iff {v : Document} {a : Analyzer} : read v = .ok a ↔
    ∃ (tag : Text) (members : Entries Document), v = .object members ∧ members.get? "type" = some (.text tag) ∧
      tag ∈ tags ∧ ofMembers tag members = .ok a :=
  bind_tagged_eq_ok_iff

/-- What is read as an analyzer has names where names are due. -/
theorem wellFormed_of_read {v : Document} {a : Analyzer} (h : read v = .ok a) : a.WellFormed := by
  obtain ⟨tag, members, -, -, -, h⟩ := read_eq_ok_iff.mp h
  obtain ⟨-, -, h⟩ := Checked.bind_eq_ok_iff.mp h
  split at h
  · obtain ⟨⟨className, _⟩, hparts, rfl⟩ := Checked.map_eq_ok_iff.mp h
    exact isName_of_requiredField (Checked.and_eq_ok_iff.mp hparts).1
  · obtain ⟨⟨language, _, _⟩, hparts, rfl⟩ := Checked.map_eq_ok_iff.mp h
    exact isName_of_requiredField (Checked.and_eq_ok_iff.mp hparts).1

/-- An analyzer is read from the document with all its parts. -/
theorem read_toDocument {a : Analyzer} (h : a.WellFormed) : read a.toDocument = .ok a := by
  cases a with
  | classpath className =>
    refine read_eq_ok_iff.mpr ⟨"classpath", _, rfl, by simp [Entries.get?_cons], by simp [tags], ?_⟩
    refine Checked.bind_eq_ok_iff.mpr ⟨(), encodableNames_eq_ok_iff.mpr (by simp), ?_⟩
    rw [if_pos rfl]
    refine Checked.map_eq_ok_iff.mpr ⟨(className, ()), Checked.and_eq_ok_iff.mpr ⟨?_, ?_⟩, rfl⟩
    · exact requiredField_eq_ok_iff.mpr ⟨_, by simp [classKey, Entries.has, Entries.get?_cons],
        name_eq_ok_iff.mpr ⟨rfl, h⟩⟩
    · exact closed_eq_ok_iff.mpr (by simp [classKey, Entries.has, Entries.get?_cons])
  | snowball language stopwords =>
    refine read_eq_ok_iff.mpr ⟨"snowball", _, rfl, by simp [Entries.get?_cons], by simp [tags], ?_⟩
    refine Checked.bind_eq_ok_iff.mpr ⟨(), encodableNames_eq_ok_iff.mpr (by simp), ?_⟩
    rw [if_neg (by simp)]
    refine Checked.map_eq_ok_iff.mpr ⟨(language, stopwords, ()), Checked.and_eq_ok_iff.mpr
      ⟨?_, Checked.and_eq_ok_iff.mpr ⟨?_, ?_⟩⟩, rfl⟩
    · exact requiredField_eq_ok_iff.mpr ⟨_, by simp [Entries.get?_cons], name_eq_ok_iff.mpr ⟨rfl, h⟩⟩
    · exact optionalField_eq_ok_iff.mpr (Or.inr ⟨_, by simp [Entries.get?_cons],
        nullable_ofText? fun t _ => text_eq_ok_iff.mpr rfl⟩)
    · exact closed_eq_ok_iff.mpr (by simp)

end Analyzer

/-! ## Mappers -/

/-- All names that are given are names, and the levels of a point are between their bounds. -/
def Mapping.WellFormed : Mapping → Prop
  | .string column _ => ∀ c ∈ column, IsName c
  | .text column analyzer => (∀ c ∈ column, IsName c) ∧ ∀ a ∈ analyzer, IsName a
  | .date column pattern => (∀ c ∈ column, IsName c) ∧ IsName pattern
  | .plain _ column => ∀ c ∈ column, IsName c
  | .geoPoint latitude longitude maxLevels =>
    IsName latitude ∧ IsName longitude ∧ 1 ≤ maxLevels ∧ maxLevels ≤ 24

theorem PlainType.ofTag?_tag (type : PlainType) : ofTag? type.tag = some type := by
  cases type <;> decide

namespace Mapper

variable {members : Entries Document} {m : Mapper}

/-! ### Readers of the properties -/

/-- A mapper with one property is put together from what each of its members is read as. -/
theorem ofMembersWith_eq_ok_iff {α : Type} {property : Text} {read : Checked α} {make : Option Text → α → Mapping} :
    ofMembersWith members property read make = .ok m ↔
      ∃ validated column value, readValidated members = .ok validated ∧ readColumn members = .ok column ∧
        read = .ok value ∧ (∀ e ∈ members, e.1 ∈ (["type", "validated", "column", property] : List Text)) ∧
        ⟨validated, make column value⟩ = m := by
  unfold ofMembersWith
  simp only [Checked.map_eq_ok_iff, Prod.exists, Checked.and_eq_ok_iff, closed_eq_ok_iff, exists_const, and_assoc]

theorem plainOfMembers_eq_ok_iff {type : PlainType} :
    plainOfMembers type members = .ok m ↔
      ∃ validated column, readValidated members = .ok validated ∧ readColumn members = .ok column ∧
        (∀ e ∈ members, e.1 ∈ (["type", "validated", "column"] : List Text)) ∧ ⟨validated, .plain type column⟩ = m := by
  unfold plainOfMembers
  simp only [Checked.map_eq_ok_iff, Prod.exists, Checked.and_eq_ok_iff, closed_eq_ok_iff, exists_const, and_assoc]

/-- The same for points. -/
theorem geoPointOfMembers_eq_ok_iff :
    geoPointOfMembers members = .ok m ↔
      ∃ validated latitude longitude maxLevels, readValidated members = .ok validated ∧
        requiredField members "latitude" name = .ok latitude ∧
        requiredField members "longitude" name = .ok longitude ∧
        optionalField members "max_levels" 11 (integerBetween 1 24) = .ok maxLevels ∧
        (∀ e ∈ members, e.1 ∈ (["type", "validated", "latitude", "longitude", "max_levels"] : List Text)) ∧
        ⟨validated, .geoPoint latitude longitude maxLevels⟩ = m := by
  unfold geoPointOfMembers
  simp only [Checked.map_eq_ok_iff, Prod.exists, Checked.and_eq_ok_iff, closed_eq_ok_iff, exists_const, and_assoc]

/-! ### Dispatch on the tag -/

section Dispatch

variable (hnames : ∀ e ∈ members, e.1.isEncodable)
include hnames

theorem ofMembers_string : ofMembers "string" members =
    ofMembersWith members "case_sensitive" (optionalField members "case_sensitive" true flag) .string := by
  unfold ofMembers
  rw [encodableNames_bind hnames]
  exact if_pos rfl

theorem ofMembers_text : ofMembers "text" members =
    ofMembersWith members "analyzer" (optionalField members "analyzer" none (nullable name)) .text := by
  unfold ofMembers
  rw [encodableNames_bind hnames]
  exact (if_neg (by simp)).trans (if_pos rfl)

theorem ofMembers_date : ofMembers "date" members =
    ofMembersWith members "pattern" (optionalField members "pattern" defaultPattern name) .date := by
  unfold ofMembers
  rw [encodableNames_bind hnames]
  exact (if_neg (by simp)).trans ((if_neg (by simp)).trans (if_pos rfl))

/-- The tags of the plain types lead to one reader, which is given the type. -/
theorem ofMembers_plain (type : PlainType) : ofMembers type.tag members = plainOfMembers type members := by
  unfold ofMembers
  rw [encodableNames_bind hnames]
  have htag : type.tag ≠ "string" ∧ type.tag ≠ "text" ∧ type.tag ≠ "date" := by
    cases type <;> simp [PlainType.tag]
  refine (if_neg htag.1).trans ((if_neg htag.2.1).trans ((if_neg htag.2.2).trans ?_))
  rw [PlainType.ofTag?_tag]

theorem ofMembers_geoPoint : ofMembers "geo_point" members = geoPointOfMembers members := by
  unfold ofMembers
  rw [encodableNames_bind hnames]
  have hplain : PlainType.ofTag? "geo_point" = none := by decide
  refine (if_neg (by simp)).trans ((if_neg (by simp)).trans ((if_neg (by simp)).trans ?_))
  rw [hplain]

end Dispatch

/-- A mapper is read from an object whose tag is known, by the reader of that tag. -/
theorem read_eq_ok_iff {v : Document} : read v = .ok m ↔
    ∃ (tag : Text) (members : Entries Document), v = .object members ∧ members.get? "type" = some (.text tag) ∧
      tag ∈ tags ∧ ofMembers tag members = .ok m :=
  bind_tagged_eq_ok_iff

/-! ### Reading gives well-formed mappers -/

theorem isName_of_readColumn {column : Option Text} (h : readColumn members = .ok column) : ∀ c ∈ column, IsName c :=
  isName_of_nullableField h

/-- The pattern of dates that have none of their own is a name. -/
theorem isName_defaultPattern : IsName defaultPattern := by
  refine ⟨Text.isEncodable_ofString _, ?_⟩
  decide

/-- Columns, analyzers and patterns of a mapper are names, and its levels are within bounds. -/
theorem wellFormed_of_ofMembers {tag : Text} (h : ofMembers tag members = .ok m) : m.mapping.WellFormed := by
  obtain ⟨-, -, h⟩ := Checked.bind_eq_ok_iff.mp h
  split at h
  · obtain ⟨_, column, _, -, hc, -, -, rfl⟩ := ofMembersWith_eq_ok_iff.mp h
    exact isName_of_readColumn hc
  split at h
  · obtain ⟨_, column, analyzer, -, hc, ha, -, rfl⟩ := ofMembersWith_eq_ok_iff.mp h
    exact ⟨isName_of_readColumn hc, isName_of_nullableField ha⟩
  split at h
  · obtain ⟨_, column, pattern, -, hc, hp, -, rfl⟩ := ofMembersWith_eq_ok_iff.mp h
    exact ⟨isName_of_readColumn hc, isName_of_optionalField isName_defaultPattern hp⟩
  split at h
  · obtain ⟨_, column, -, hc, -, rfl⟩ := plainOfMembers_eq_ok_iff.mp h
    exact isName_of_readColumn hc
  · obtain ⟨_, latitude, longitude, maxLevels, -, hlat, hlon, hmax, -, rfl⟩ := geoPointOfMembers_eq_ok_iff.mp h
    refine ⟨isName_of_requiredField hlat, isName_of_requiredField hlon, ?_⟩
    rcases optionalField_eq_ok_iff.mp hmax with ⟨-, rfl⟩ | ⟨v, -, hv⟩
    · decide
    · exact integerBetween_eq_ok hv

theorem wellFormed_of_read {v : Document} (h : read v = .ok m) : m.mapping.WellFormed := by
  obtain ⟨tag, members, -, -, -, h⟩ := read_eq_ok_iff.mp h
  exact wellFormed_of_ofMembers h

/-! ### Well-formed mappers are read again -/

/-- The members of the document with all properties. -/
def written (m : Mapper) : Entries Document :=
  ("type", .text m.tag) :: ("validated", .bool m.validated) :: properties m.mapping

theorem tag_mem_tags (m : Mapper) : m.tag ∈ tags := by
  obtain ⟨validated, mapping⟩ := m
  cases mapping with
  | plain type column => cases type <;> simp [tag, PlainType.tag, tags]
  | _ => simp [tag, tags]

theorem isEncodable_of_mem_written : ∀ e ∈ m.written, e.1.isEncodable := by
  obtain ⟨validated, mapping⟩ := m
  cases mapping <;> simp [written, properties]

/-- The document of a mapper is read as what its members are read as. -/
theorem read_toDocument_of_ofMembers (h : ofMembers m.tag m.written = .ok m) : read m.toDocument = .ok m :=
  read_eq_ok_iff.mpr ⟨m.tag, m.written, rfl, by simp [written, Entries.get?_cons], tag_mem_tags m, h⟩

theorem readValidated_cons (type : Document) (validated : Bool) (r : Entries Document) :
    readValidated (("type", type) :: ("validated", .bool validated) :: r) = .ok validated :=
  optionalField_eq_ok_iff.mpr (Or.inr ⟨.bool validated, by simp [Entries.get?_cons], rfl⟩)

/-- The column of a mapper is found behind the tag and the flag. -/
theorem readColumn_cons (type validated : Document) {column : Option Text} (r : Entries Document)
    (h : ∀ c ∈ column, IsName c) :
    readColumn (("type", type) :: ("validated", validated) :: ("column", Document.ofText? column) :: r) = .ok column :=
  optionalField_eq_ok_iff.mpr (Or.inr ⟨Document.ofText? column, by simp [Entries.get?_cons],
    nullable_ofText? fun c hc => name_eq_ok_iff.mpr ⟨rfl, h c hc⟩⟩)

/-- The property of a mapper with one property of its own. -/
theorem optionalField_cons {α : Type} (type validated column : Document) {property : String} {v : Document}
    {a default : α} {reader : Document → Checked α} (h : property ∉ ["type", "validated", "column"])
    (hv : reader v = .ok a) :
    optionalField (("type", type) :: ("validated", validated) :: ("column", column) :: [(property, v)]) property default
      reader = .ok a := by
  simp only [List.mem_cons, List.not_mem_nil, or_false, not_or] at h
  refine optionalField_eq_ok_iff.mpr (Or.inr ⟨v, ?_, hv⟩)
  simp [Entries.get?_cons, h]

/-- A mapper is read from the document with all its properties. -/
theorem read_toDocument (h : m.mapping.WellFormed) : read m.toDocument = .ok m := by
  obtain ⟨validated, mapping⟩ := m
  apply read_toDocument_of_ofMembers
  have hnames := isEncodable_of_mem_written (m := ⟨validated, mapping⟩)
  cases mapping with
  | string column caseSensitive =>
    refine (ofMembers_string hnames).trans (ofMembersWith_eq_ok_iff.mpr ⟨validated, column, caseSensitive,
      readValidated_cons _ _ _, readColumn_cons _ _ _ h, ?_, by simp [written, properties], rfl⟩)
    exact optionalField_cons _ _ _ (by simp) rfl
  | text column analyzer =>
    refine (ofMembers_text hnames).trans (ofMembersWith_eq_ok_iff.mpr ⟨validated, column, analyzer,
      readValidated_cons _ _ _, readColumn_cons _ _ _ h.1, ?_, by simp [written, properties], rfl⟩)
    exact optionalField_cons _ _ _ (by simp) (nullable_ofText? fun a ha => name_eq_ok_iff.mpr ⟨rfl, h.2 a ha⟩)
  | date column pattern =>
    refine (ofMembers_date hnames).trans (ofMembersWith_eq_ok_iff.mpr ⟨validated, column, pattern,
      readValidated_cons _ _ _, readColumn_cons _ _ _ h.1, ?_, by simp [written, properties], rfl⟩)
    exact optionalField_cons _ _ _ (by simp) (name_eq_ok_iff.mpr ⟨rfl, h.2⟩)
  | plain type column =>
    exact (ofMembers_plain hnames type).trans (plainOfMembers_eq_ok_iff.mpr ⟨validated, column,
      readValidated_cons _ _ _, readColumn_cons _ _ _ h, by simp [written, properties], rfl⟩)
  | geoPoint latitude longitude maxLevels =>
    obtain ⟨hlat, hlon, hlow, hhigh⟩ := h
    refine (ofMembers_geoPoint hnames).trans (geoPointOfMembers_eq_ok_iff.mpr ⟨validated, latitude, longitude,
      maxLevels, readValidated_cons _ _ _, ?_, ?_, ?_, by simp [written, properties], rfl⟩)
    · exact requiredField_eq_ok_iff.mpr ⟨.text latitude, by simp [written, properties, Entries.get?_cons],
        name_eq_ok_iff.mpr ⟨rfl, hlat⟩⟩
    · exact requiredField_eq_ok_iff.mpr ⟨.text longitude, by simp [written, properties, Entries.get?_cons],
        name_eq_ok_iff.mpr ⟨rfl, hlon⟩⟩
    · exact optionalField_eq_ok_iff.mpr (Or.inr ⟨.integer maxLevels,
        by simp [written, properties, Entries.get?_cons], integerBetween_integer hlow hhigh⟩)

end Mapper

/-! ## Schemas -/

namespace Schema

/-- The parts are well formed, there is a field, and each analyzer that is named is prebuilt or declared. -/
structure WellFormed (s : Schema) : Prop where
  isName_default : IsName s.defaultAnalyzer
  analyzers : ∀ e ∈ s.analyzers, e.2.WellFormed
  fields : ∀ e ∈ s.fields, e.2.mapping.WellFormed
  fields_ne_nil : s.fields ≠ []
  knows_default : s.knows s.defaultAnalyzer
  knows_named : ∀ e ∈ s.fields, ∀ a ∈ e.2.analyzer?, s.knows a

variable {members : Entries Document} {s t : Schema}

/-! ### References -/

/-- No field refers to an analyzer that the schema does not know. -/
theorem unknownReference?_eq_none_iff :
    s.unknownReference? = none ↔ ∀ e ∈ s.fields, ∀ a ∈ e.2.analyzer?, s.knows a := by
  unfold unknownReference?
  rw [List.findSome?_eq_none_iff]
  refine forall₂_congr fun ⟨field, mapper⟩ _ => ?_
  cases h : mapper.analyzer? <;> simp [h]

/-- The document that a schema is read from matters for the problem only. -/
theorem checkReferences_eq_ok_iff {whole : Document} :
    checkReferences whole s = .ok t ↔
      s = t ∧ s.knows s.defaultAnalyzer ∧ ∀ e ∈ s.fields, ∀ a ∈ e.2.analyzer?, s.knows a := by
  rw [← unknownReference?_eq_none_iff]
  unfold checkReferences
  cases hd : s.knows s.defaultAnalyzer with
  | false => simp [Checked.refuse]
  | true => cases hr : s.unknownReference? <;> simp [Checked.refuse]

/-! ### Entries -/

section ReadEntries

variable {α : Type} {read : Document → Checked α} {es : Entries α}

/-- Each entry that is read comes from a member of its name. -/
theorem exists_of_mem_readEntries (h : readEntries read members = .ok es) {e : Text × α} (he : e ∈ es) :
    ∃ v, (e.1, v) ∈ members ∧ read v = .ok e.2 := by
  have hmem : Except.ok e ∈ es.map (Except.ok (ε := List Problem)) := List.mem_map_of_mem he
  rw [← Checked.all_eq_ok_iff.mp h] at hmem
  obtain ⟨⟨name, v⟩, hv, hread⟩ := List.mem_map.mp hmem
  obtain ⟨a, ha, rfl⟩ := Checked.map_eq_ok_iff.mp (Checked.under_eq_ok_iff.mp hread)
  exact ⟨v, hv, ha⟩

/-- Entries are read from their documents, in their order. -/
theorem readEntries_map {write : α → Document} (h : ∀ e ∈ es, read (write e.2) = .ok e.2) :
    readEntries read (es.map fun (name, a) => (name, write a)) = .ok es := by
  refine Checked.all_eq_ok_iff.mpr ?_
  rw [List.map_map]
  refine List.map_congr_left fun e he => ?_
  exact Checked.under_eq_ok_iff.mpr (Checked.map_eq_ok_iff.mpr ⟨e.2, h e he, rfl⟩)

end ReadEntries

theorem wellFormed_of_readAnalyzers {v : Document} {es : Entries Analyzer} (h : readAnalyzers v = .ok es) :
    ∀ e ∈ es, e.2.WellFormed := by
  unfold readAnalyzers at h
  split at h
  · intro e he
    obtain ⟨v, -, hv⟩ := exists_of_mem_readEntries h he
    exact Analyzer.wellFormed_of_read hv
  · cases h

/-- Fields are an object with a member at least, and each member is read as a mapper. -/
theorem readFields_eq_ok_iff {v : Document} {es : Entries Mapper} :
    readFields v = .ok es ↔
      ∃ members, v = .object members ∧ members ≠ [] ∧ readEntries Mapper.read members = .ok es := by
  unfold readFields
  split
  · simp [Checked.refuse]
  · next members hne =>
    have : members ≠ [] := fun hnil => hne (by rw [hnil])
    simp [this]
  · next hne =>
    constructor
    · intro h
      cases h
    · rintro ⟨members, hv, -⟩
      exact absurd hv (hne members)

theorem wellFormed_of_readFields {v : Document} {es : Entries Mapper} (h : readFields v = .ok es) :
    es ≠ [] ∧ ∀ e ∈ es, e.2.mapping.WellFormed := by
  obtain ⟨members, -, hne, hread⟩ := readFields_eq_ok_iff.mp h
  constructor
  · rintro rfl
    have hnil := Checked.all_eq_ok_iff.mp hread
    exact hne (List.map_eq_nil_iff.mp hnil)
  · intro e he
    obtain ⟨v, -, hv⟩ := exists_of_mem_readEntries hread he
    exact Mapper.wellFormed_of_read hv

/-! ### Schemas that are read -/

/-- A schema is put together from its three members, before the references are looked at. -/
theorem readParts_eq_ok_iff :
    readParts members = .ok s ↔
      (∀ e ∈ members, e.1.isEncodable) ∧
        optionalField members "default_analyzer" ("standard" : Text) name = .ok s.defaultAnalyzer ∧
        optionalField members "analyzers" [] readAnalyzers = .ok s.analyzers ∧
        requiredField members "fields" readFields = .ok s.fields ∧
        ∀ e ∈ members, e.1 ∈ (["default_analyzer", "analyzers", "fields"] : List Text) := by
  unfold readParts
  simp only [Checked.bind_eq_ok_iff, encodableNames_eq_ok_iff, Checked.map_eq_ok_iff, Prod.exists,
    Checked.and_eq_ok_iff, closed_eq_ok_iff, exists_const]
  constructor
  · rintro ⟨hnames, defaultAnalyzer, analyzers, fields, ⟨hd, ha, hf, hclosed⟩, rfl⟩
    exact ⟨hnames, hd, ha, hf, hclosed⟩
  · rintro ⟨hnames, hd, ha, hf, hclosed⟩
    exact ⟨hnames, s.defaultAnalyzer, s.analyzers, s.fields, ⟨hd, ha, hf, hclosed⟩, rfl⟩

/-- A schema that is read has well-formed parts, and its references lead to analyzers that it knows. -/
theorem wellFormed_of_ofMembers (h : ofMembers members = .ok s) : s.WellFormed := by
  obtain ⟨t, hparts, hrefs⟩ := Checked.bind_eq_ok_iff.mp h
  obtain ⟨rfl, hdefault, hnamed⟩ := checkReferences_eq_ok_iff.mp hrefs
  obtain ⟨-, hd, ha, hf, -⟩ := readParts_eq_ok_iff.mp hparts
  obtain ⟨v, -, hv⟩ := requiredField_eq_ok_iff.mp hf
  obtain ⟨hne, hfields⟩ := wellFormed_of_readFields hv
  refine ⟨isName_of_optionalField ⟨Text.isEncodable_ofString _, by decide⟩ hd, ?_, hfields, hne, hdefault, hnamed⟩
  rcases optionalField_eq_ok_iff.mp ha with ⟨-, hnone⟩ | ⟨u, -, hu⟩
  · rw [hnone]
    exact fun e he => (by cases he)
  · exact wellFormed_of_readAnalyzers hu

/-! ### Schemas that are written -/

/-- The members of the document with all parts. -/
def written (s : Schema) : Entries Document :=
  [("default_analyzer", .text s.defaultAnalyzer),
    ("analyzers", .object (s.analyzers.map fun (name, a) => (name, a.toDocument))),
    ("fields", .object (s.fields.map fun (name, m) => (name, m.toDocument)))]

/-- A schema is read from the document with all its parts. -/
theorem ofMembers_written (h : s.WellFormed) : ofMembers s.written = .ok s := by
  refine Checked.bind_eq_ok_iff.mpr ⟨s, ?_, checkReferences_eq_ok_iff.mpr ⟨rfl, h.knows_default, h.knows_named⟩⟩
  refine readParts_eq_ok_iff.mpr ⟨by simp [written], ?_, ?_, ?_, by simp [written]⟩
  · exact optionalField_eq_ok_iff.mpr (Or.inr ⟨.text s.defaultAnalyzer, by simp [written, Entries.get?_cons],
      name_eq_ok_iff.mpr ⟨rfl, h.isName_default⟩⟩)
  · refine optionalField_eq_ok_iff.mpr (Or.inr ⟨_, by simp [written, Entries.get?_cons]; rfl, ?_⟩)
    exact readEntries_map fun e he => Analyzer.read_toDocument (h.analyzers e he)
  · refine requiredField_eq_ok_iff.mpr ⟨_, by simp [written, Entries.get?_cons]; rfl, ?_⟩
    refine readFields_eq_ok_iff.mpr ⟨_, rfl, ?_, ?_⟩
    · simpa using h.fields_ne_nil
    · exact readEntries_map fun e he => Mapper.read_toDocument (h.fields e he)

/-- The headline of the problems does not change what is accepted. -/
theorem ofObject_eq_ok_iff : ofObject members = .ok s ↔ ofMembers members = .ok s := by
  unfold ofObject
  cases ofMembers members with
  | ok t => exact ⟨fun h => (by cases h; rfl), fun h => (by cases h; rfl)⟩
  | error ps => exact ⟨fun h => (by cases h), fun h => (by cases h)⟩

/-- **A schema that is built is built again from its own document**, and from every text of that document. Both schemas
are equal as data, so their analyzers and fields have the same order and the same columns are mapped. -/
theorem ofObject_written (h : ofObject members = .ok s) :
    ∃ written, s.toDocument = .object written ∧ ofObject written = .ok s ∧
      ∀ depth u, decode depth u = .ok written → build depth u = .ok s := by
  have hread := ofObject_eq_ok_iff.mp h
  have hagain : ofObject s.written = .ok s :=
    ofObject_eq_ok_iff.mpr (ofMembers_written (wellFormed_of_ofMembers hread))
  refine ⟨s.written, rfl, hagain, fun depth u hu => ?_⟩
  unfold build
  rw [hu]
  exact hagain

/-- Members that leave out defaults, name a class in the other way and give flags and levels in other forms. -/
def placesMembers : Entries Document :=
  [("fields", .object [
      ("name", .object [("type", .text "text"), ("analyzer", .null), ("validated", .integer 1)]),
      ("motto", .object [("analyzer", .text "plain"), ("type", .text "text"), ("column", .text "words")]),
      ("code", .object [("type", .text "string"), ("case_sensitive", .text "OFF")]),
      ("founded", .object [("type", .text "date")]),
      ("people", .object [("type", .text "bigint"), ("column", .null)]),
      ("place", .object [("type", .text "geo_point"), ("latitude", .text "lat"), ("longitude", .text "lon"),
        ("max_levels", .text " 07.0 ")])]),
    ("default_analyzer", .text "spanish"),
    ("analyzers", .object [
      ("spanish", .object [("type", .text "snowball"), ("language", .text "Spanish")]),
      ("plain", .object [("class_name", .text "org.apache.lucene.analysis.core.SimpleAnalyzer"),
        ("type", .text "classpath")])])]

def placesSchema : Schema where
  defaultAnalyzer := "spanish"
  analyzers := [("spanish", .snowball "Spanish" none),
    ("plain", .classpath "org.apache.lucene.analysis.core.SimpleAnalyzer")]
  fields := [("name", ⟨true, .text none none⟩), ("motto", ⟨false, .text (some "words") (some "plain")⟩),
    ("code", ⟨false, .string none false⟩), ("founded", ⟨false, .date none Mapper.defaultPattern⟩),
    ("people", ⟨false, .plain .bigint none⟩), ("place", ⟨false, .geoPoint "lat" "lon" 7⟩)]

theorem ofObject_written_places : ofObject placesMembers = .ok placesSchema ∧
    ∃ written, placesSchema.toDocument = .object written ∧ ofObject written = .ok placesSchema ∧
      ∀ depth u, decode depth u = .ok written → build depth u = .ok placesSchema :=
  have h : ofObject placesMembers = .ok placesSchema := by rfl
  ⟨h, ofObject_written h⟩

end Schema

end IndexOptions
