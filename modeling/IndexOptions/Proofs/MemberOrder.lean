import IndexOptions.Proofs.MappedColumns
import IndexOptions.Proofs.Reordered
import IndexOptions.Proofs.SchemaAcceptance
import Mathlib.Data.List.Nodup

/-!
# The order of members in schemas

The order of the members of a schema document has no meaning, at any level: the readers of analyzers and of mappers make
the same of both documents (`Analyzer.respects_read`, `Mapper.respects_read`), and those of the entries make the same
entries in another order (`Schema.readEntries_of_reordered`). Schemas that differ by this order only
(`Schema.Rearranged`) know the same analyzers, so the references of the one are fine if those of the other are; they map
the same columns, since these are sorted; and they fit the same tables, though the first misfit that is reported may be
another one.

`Schema.ofObject_reordered` puts this together.
-/

namespace IndexOptions

open Reading Document

namespace Analyzer

/-- The key of the class depends on which members are there, not on their order. -/
theorem classKey_of_reordered {ms ns : Entries Document} (h : Reordered (.object ms) (.object ns)) :
    classKey ms = classKey ns := by
  have hhas : ∀ key, ms.has key = ns.has key := by
    intro key
    rw [Bool.eq_iff_iff, Entries.has_iff, Entries.has_iff]
    exact h.perm_keys.mem_iff
  unfold classKey
  rw [hhas, hhas]

/-- An analyzer is read alike from its members in any order, whatever its tag. -/
theorem stable_ofMembers (tag : Text) : Stable Eq (ofMembers tag) := by
  refine stable_encodableNames_bind ?_
  split
  · intro ms ns a hms h
    have hstable : Stable Eq fun members => ((requiredField members (classKey ns) name).and
        (closed ["type", classKey ns] members)).map fun p => classpath p.1 := by
      refine stable_map (stable_and (stable_requiredField _ respects_name) (stable_closed _)) ?_
      rintro ⟨className, _⟩ ⟨_, _⟩ ⟨rfl, -⟩
      rfl
    dsimp only at h ⊢
    rw [classKey_of_reordered hms] at h
    exact hstable ms ns a hms h
  · refine stable_map (stable_and (stable_requiredField _ respects_name)
      (stable_and (stable_optionalField _ rfl respects_nullableText) (stable_closed _))) ?_
    rintro ⟨language, stopwords, _⟩ ⟨_, _, _⟩ ⟨rfl, rfl, -⟩
    rfl

theorem respects_read : Respects Eq read := respects_tagged stable_ofMembers

end Analyzer

namespace Mapper

theorem stable_readValidated : Stable Eq readValidated := stable_optionalField _ rfl respects_flag

theorem stable_readColumn : Stable Eq readColumn := stable_optionalField _ rfl respects_nullableName

/-- The reader of a mapper with one property is as stable as that of the property. -/
theorem stable_ofMembersWith {α : Type} {x : Entries Document → Checked α} (hx : Stable Eq x) (property : Text)
    (make : Option Text → α → Mapping) : Stable Eq fun ms => ofMembersWith ms property (x ms) make := by
  refine stable_map (stable_and stable_readValidated (stable_and stable_readColumn
    (stable_and hx (stable_closed _)))) ?_
  rintro ⟨validated, column, value, _⟩ ⟨_, _, _, _⟩ ⟨rfl, rfl, rfl, -⟩
  rfl

theorem stable_plainOfMembers (type : PlainType) : Stable Eq (plainOfMembers type) := by
  refine stable_map (stable_and stable_readValidated (stable_and stable_readColumn (stable_closed _))) ?_
  rintro ⟨validated, column, _⟩ ⟨_, _, _⟩ ⟨rfl, rfl, -⟩
  rfl

/-- So are points read alike, whose members are two columns and a number of levels. -/
theorem stable_geoPointOfMembers : Stable Eq geoPointOfMembers := by
  refine stable_map (stable_and stable_readValidated (stable_and (stable_requiredField _ respects_name)
    (stable_and (stable_requiredField _ respects_name)
      (stable_and (stable_optionalField _ rfl (respects_integerBetween 1 24)) (stable_closed _))))) ?_
  rintro ⟨validated, latitude, longitude, maxLevels, _⟩ ⟨_, _, _, _, _⟩ ⟨rfl, rfl, rfl, rfl, -⟩
  rfl

theorem stable_ofMembers (tag : Text) : Stable Eq (ofMembers tag) := by
  refine stable_encodableNames_bind ?_
  split
  · exact stable_ofMembersWith (stable_optionalField _ rfl respects_flag) _ _
  split
  · exact stable_ofMembersWith (stable_optionalField _ rfl respects_nullableName) _ _
  split
  · exact stable_ofMembersWith (stable_optionalField _ rfl respects_name) _ _
  split
  · exact stable_plainOfMembers _
  · exact stable_geoPointOfMembers

theorem respects_read : Respects Eq read := respects_tagged stable_ofMembers

end Mapper

/-! ## Schemas -/

namespace Schema

variable {s t : Schema}

/-- Entries are read from the members of their names, whatever the order. -/
theorem mem_readEntries_iff {α : Type} {read : Document → Checked α} {ms : Entries Document} {es : Entries α}
    (h : readEntries read ms = .ok es) {e : Text × α} : e ∈ es ↔ ∃ v, (e.1, v) ∈ ms ∧ read v = .ok e.2 := by
  refine ⟨exists_of_mem_readEntries h, ?_⟩
  rintro ⟨v, hv, he⟩
  have hmem := List.mem_map_of_mem (f := fun m : Text × Document =>
    Checked.under (.key m.1) ((read m.2).map fun a => (m.1, a))) hv
  rw [Checked.all_eq_ok_iff.mp h] at hmem
  obtain ⟨f, hf, hfe⟩ := List.mem_map.mp hmem
  rw [he] at hfe
  cases hfe
  exact hf

section Entries

variable {α : Type} {read : Document → Checked α} {ms ns : Entries Document} {es fs : Entries α}

/-- A member is read as the entry of its name is read from the other object. -/
theorem exists_mem_of_reordered (hread : Respects Eq read) (h : Reordered (.object ms) (.object ns))
    (hes : readEntries read ms = .ok es) {e : Text × Document} (he : e ∈ ns) :
    ∃ a, read e.2 = .ok a ∧ (e.1, a) ∈ es := by
  have hget : ns.get? e.1 = some e.2 := (Entries.get?_eq_some_iff h.symm.distinct).mpr he
  obtain ⟨v, hv, hreordered⟩ := h.symm.exists_get? hget
  have hmem : (e.1, v) ∈ ms := (Entries.get?_eq_some_iff h.distinct).mp hv
  obtain ⟨a, ha⟩ := exists_readEntries_iff.mp ⟨es, hes⟩ _ hmem
  obtain ⟨_, hb, rfl⟩ := hread _ _ a hreordered.symm ha
  exact ⟨a, hb, (mem_readEntries_iff hes).mpr ⟨v, hmem, ha⟩⟩

/-- The entries of the one document are among those of the other; used both ways, they are the same. -/
theorem subset_of_reordered (hread : Respects Eq read) (h : Reordered (.object ms) (.object ns))
    (hes : readEntries read ms = .ok es) (hfs : readEntries read ns = .ok fs) : fs ⊆ es := by
  intro f hf
  obtain ⟨w, hw, hb⟩ := (mem_readEntries_iff hfs).mp hf
  obtain ⟨a, ha, hmem⟩ := exists_mem_of_reordered hread h hes hw
  rw [hb] at ha
  cases ha
  exact hmem

/-- The members of an object in another order are read as the same entries in another order. -/
theorem readEntries_of_reordered (hread : Respects Eq read) (h : Reordered (.object ms) (.object ns))
    (hes : readEntries read ms = .ok es) : ∃ fs, readEntries read ns = .ok fs ∧ es.Rearranged fs := by
  obtain ⟨fs, hfs⟩ : ∃ fs, readEntries read ns = .ok fs := by
    refine exists_readEntries_iff.mpr fun e he => ?_
    obtain ⟨a, ha, -⟩ := exists_mem_of_reordered hread h hes he
    exact ⟨a, ha⟩
  have hdistinct : es.keys.Nodup := keys_of_readEntries hes ▸ h.distinct
  have hdistinct' : fs.keys.Nodup := keys_of_readEntries hfs ▸ h.symm.distinct
  refine ⟨fs, hfs, hdistinct, ?_⟩
  refine (List.perm_ext_iff_of_nodup (List.Nodup.of_map _ hdistinct) (List.Nodup.of_map _ hdistinct')).mpr fun e => ?_
  exact ⟨fun he => subset_of_reordered hread h.symm hfs hes he, fun he => subset_of_reordered hread h hes hfs he⟩

end Entries

theorem respects_readAnalyzers : Respects Entries.Rearranged readAnalyzers := by
  intro v w es h hes
  cases v with
  | object ms =>
    cases w with
    | object ns => exact readEntries_of_reordered Analyzer.respects_read h hes
    | _ => cases h
  | _ => cases hes

/-- Fields are read alike as long as there are some. -/
theorem respects_readFields : Respects Entries.Rearranged readFields := by
  intro v w es h hes
  obtain ⟨ms, rfl, hne, hread⟩ := readFields_eq_ok_iff.mp hes
  cases w with
  | object ns =>
    obtain ⟨fs, hfs, hrearranged⟩ := readEntries_of_reordered Mapper.respects_read h hread
    refine ⟨fs, readFields_eq_ok_iff.mpr ⟨ns, rfl, ?_, hfs⟩, hrearranged⟩
    rintro rfl
    exact hne (List.map_eq_nil_iff.mp h.perm_keys.eq_nil)
  | _ => cases h

/-- The same schema with its analyzers and its fields in another order. -/
structure Rearranged (s t : Schema) : Prop where
  defaultAnalyzer : s.defaultAnalyzer = t.defaultAnalyzer
  analyzers : s.analyzers.Rearranged t.analyzers
  fields : s.fields.Rearranged t.fields

theorem stable_readParts : Stable Rearranged readParts := by
  have hnil : Entries.Rearranged ([] : Entries Analyzer) [] := ⟨List.nodup_nil, List.Perm.nil⟩
  refine stable_encodableNames_bind (stable_map (stable_and (stable_optionalField _ rfl respects_name)
    (stable_and (stable_optionalField _ hnil respects_readAnalyzers)
      (stable_and (stable_requiredField _ respects_readFields) (stable_closed _)))) ?_)
  rintro ⟨defaultAnalyzer, analyzers, fields, _⟩ ⟨_, _, _, _⟩ ⟨hdefault, hanalyzers, hfields, -⟩
  exact ⟨hdefault, hanalyzers, hfields⟩

/-! ### Rearranged schemas -/

namespace Rearranged

variable (h : s.Rearranged t)
include h

/-- Schemas that differ in the order of their parts are the same data. -/
theorem same : s.same t := by
  simp only [Schema.same, h.defaultAnalyzer, decide_true, Bool.true_and, Bool.and_eq_true]
  exact ⟨Entries.equivBy_of_rearranged h.analyzers, Entries.equivBy_of_rearranged h.fields⟩

/-- They know the same analyzers, by their names. -/
theorem knows_eq (analyzer : Text) : s.knows analyzer = t.knows analyzer := by
  have hkeys : analyzer ∈ s.analyzers.keys ↔ analyzer ∈ t.analyzers.keys := (h.analyzers.perm.map _).mem_iff
  rw [Bool.eq_iff_iff, knows, knows, Bool.or_eq_true, Bool.or_eq_true, Entries.has_iff, Entries.has_iff, hkeys]

/-- The same columns are mapped: they are sorted, so the order of the fields does not show. -/
theorem mappedColumns_eq : s.mappedColumns = t.mappedColumns :=
  Text.sortedSet_eq_of_mem_iff fun _ => (h.fields.perm.flatMap_right _).mem_iff

theorem checkColumns_iff (table : Table) : s.checkColumns table = .ok () ↔ t.checkColumns table = .ok () := by
  simp only [checkColumns_eq_ok_iff, h.fields.perm.mem_iff]

/-- So the references of the one lead nowhere exactly if those of the other do. -/
theorem checkReferences_eq_ok {whole whole' : Document} (hs : checkReferences whole s = .ok s) :
    checkReferences whole' t = .ok t := by
  obtain ⟨-, hdefault, hnamed⟩ := checkReferences_eq_ok_iff.mp hs
  refine checkReferences_eq_ok_iff.mpr ⟨rfl, ?_, fun e he a ha => ?_⟩
  · rw [← h.knows_eq, ← h.defaultAnalyzer]
    exact hdefault
  · rw [← h.knows_eq]
    exact hnamed e (h.fields.perm.mem_iff.mpr he) a ha

end Rearranged

theorem stable_ofMembers : Stable Rearranged ofMembers := by
  intro ms ns s hms hs
  obtain ⟨s', hparts, hrefs⟩ := Checked.bind_eq_ok_iff.mp hs
  obtain ⟨rfl, -⟩ := checkReferences_eq_ok_iff.mp hrefs
  obtain ⟨t, ht, hst⟩ := stable_readParts ms ns s' hms hparts
  exact ⟨t, Checked.bind_eq_ok_iff.mpr ⟨t, ht, hst.checkReferences_eq_ok hrefs⟩, hst⟩

/-! ### Schemas that are built -/

/-- The same schema up to the order of its analyzers and its fields, which maps the same columns and fits the same
tables. -/
structure Alike (s t : Schema) : Prop extends Rearranged s t where
  same : s.same t
  mappedColumns_eq : s.mappedColumns = t.mappedColumns
  checkColumns_iff : ∀ table, s.checkColumns table = .ok () ↔ t.checkColumns table = .ok ()

/-- Both are schemas, and alike, or none is a schema. -/
inductive SameOutcome : Except Failure Schema → Except Failure Schema → Prop
  | built {s t : Schema} (h : s.Alike t) : SameOutcome (.ok s) (.ok t)
  | refused (f g : Failure) : SameOutcome (.error f) (.error g)

/-- All that alike schemas share follows from the order being the only difference. -/
theorem alike_of_rearranged (h : s.Rearranged t) : s.Alike t := ⟨h, h.same, h.mappedColumns_eq, h.checkColumns_iff⟩

/-- **The order of members has no meaning.** Of two documents that differ only by the order of the members of their
objects, at any level, both are schemas, and these are alike, or none is one. The same holds of all texts of such
documents. -/
theorem ofObject_reordered {ms ns : Entries Document} (h : Reordered (.object ms) (.object ns)) :
    SameOutcome (ofObject ms) (ofObject ns) ∧
      ∀ d d' u u', decode d u = .ok ms → decode d' u' = .ok ns → SameOutcome (build d u) (build d' u') := by
  have hsame : SameOutcome (ofObject ms) (ofObject ns) := by
    cases hs : ofObject ms with
    | ok s =>
      obtain ⟨t, ht, hst⟩ := stable_ofMembers ms ns s h (ofObject_eq_ok_iff.mp hs)
      rw [ofObject_eq_ok_iff.mpr ht]
      exact .built (alike_of_rearranged hst)
    | error f =>
      cases ht : ofObject ns with
      | ok t =>
        -- the other way round the first document would have been read
        obtain ⟨s, hs', -⟩ := stable_ofMembers ns ms t h.symm (ofObject_eq_ok_iff.mp ht)
        rw [ofObject_eq_ok_iff.mpr hs'] at hs
        cases hs
      | error g => exact .refused f g
  refine ⟨hsame, fun d d' u u' hu hu' => ?_⟩
  rw [build, build, hu, hu']
  exact hsame

/-- A document whose members stand in the order in which they are described. -/
def villageMembers : Entries Document :=
  [("default_analyzer", .text "plain"),
    ("analyzers", .object [("plain", .object [("type", .text "classpath"), ("class_name", .text "Plain")])]),
    ("fields", .object [
      ("motto", .object [("type", .text "text"), ("column", .text "words"), ("analyzer", .text "plain")]),
      ("place", .object [("type", .text "geo_point"), ("latitude", .text "lat"), ("longitude", .text "lon")])])]

/-- The same document with the members of all objects the other way round. -/
def mirroredMembers : Entries Document :=
  [("fields", .object [
      ("place", .object [("longitude", .text "lon"), ("latitude", .text "lat"), ("type", .text "geo_point")]),
      ("motto", .object [("analyzer", .text "plain"), ("column", .text "words"), ("type", .text "text")])]),
    ("analyzers", .object [("plain", .object [("class_name", .text "Plain"), ("type", .text "classpath")])]),
    ("default_analyzer", .text "plain")]

/-- Members the other way round. -/
theorem reordered_of_reverse {ms ms' : Entries Document} (hdistinct : ms.keys.Nodup)
    (h : List.Forall₂ (fun e f => e.1 = f.1 ∧ Reordered e.2 f.2) ms ms'.reverse) :
    Reordered (.object ms) (.object ms') :=
  reordered_of_forall₂ hdistinct h (List.reverse_perm ms')

theorem reordered_mirroredMembers : Reordered (.object villageMembers) (.object mirroredMembers) := by
  refine reordered_of_reverse (by decide) (.cons ⟨rfl, .text _⟩ (.cons ⟨rfl, ?_⟩ (.cons ⟨rfl, ?_⟩ .nil)))
  · refine reordered_of_reverse (by decide) (.cons ⟨rfl, ?_⟩ .nil)
    exact reordered_of_reverse (by decide) (.cons ⟨rfl, .text _⟩ (.cons ⟨rfl, .text _⟩ .nil))
  · refine reordered_of_reverse (by decide) (.cons ⟨rfl, ?_⟩ (.cons ⟨rfl, ?_⟩ .nil))
    · exact reordered_of_reverse (by decide)
        (.cons ⟨rfl, .text _⟩ (.cons ⟨rfl, .text _⟩ (.cons ⟨rfl, .text _⟩ .nil)))
    · exact reordered_of_reverse (by decide)
        (.cons ⟨rfl, .text _⟩ (.cons ⟨rfl, .text _⟩ (.cons ⟨rfl, .text _⟩ .nil)))

def villageSchema : Schema where
  defaultAnalyzer := "plain"
  analyzers := [("plain", .classpath "Plain")]
  fields := [("motto", ⟨false, .text (some "words") (some "plain")⟩), ("place", ⟨false, .geoPoint "lat" "lon" 11⟩)]

/-- Both documents are built, into schemas that are alike though their fields have different orders. -/
theorem ofObject_reordered_mirrored :
    ofObject villageMembers = .ok villageSchema ∧
      ofObject mirroredMembers = .ok { villageSchema with fields := villageSchema.fields.reverse } ∧
      villageSchema.Alike { villageSchema with fields := villageSchema.fields.reverse } := by
  have hs : ofObject villageMembers = .ok villageSchema := rfl
  have ht : ofObject mirroredMembers = .ok { villageSchema with fields := villageSchema.fields.reverse } := rfl
  obtain ⟨hsame, -⟩ := ofObject_reordered reordered_mirroredMembers
  rw [hs, ht] at hsame
  cases hsame with
  | built h => exact ⟨hs, ht, h⟩

end Schema

end IndexOptions
