import IndexOptions.Proofs.Records
import IndexOptions.Proofs.SchemaDocuments

/-!
# Which documents are analyzers and mappers

The documents of analyzers and of mappers, said without their readers: the members fit the slots of the tag
(`Analyzer.Valid`, `Mapper.Valid`), and these are the documents that are read (`Analyzer.valid_iff`,
`Mapper.valid_iff`). A reader that refuses a document has a problem to tell (`Analyzer.explained_read`,
`Mapper.explained_read`).

The analyzer that a mapper names is seen in its document (`Mapper.namedAnalyzer?`, `Mapper.analyzer?_of_read`).
-/

namespace IndexOptions

open Reading

/-! ## Analyzers -/

namespace Analyzer

/-- The members of a class, whose name stands under one of two keys. -/
def classSlots (key : Text) : List Slot := [typeSlot "classpath", ⟨key, true, HoldsName⟩]

def snowballSlots : List Slot :=
  [typeSlot "snowball", ⟨"language", true, HoldsName⟩, ⟨"stopwords", false, HoldsTextOrNull⟩]

/-- The document of an analyzer. -/
def Valid (v : Document) : Prop :=
  ∃ members : Entries Document, v = .object members ∧
    (Fits (classSlots "class") members ∨ Fits (classSlots "class_name") members ∨ Fits snowballSlots members)

variable {members : Entries Document}

/-- A member that has to be there is there. -/
theorem has_of_filled {key : Text} (h : Slot.Filled ⟨key, true, HoldsName⟩ members) : members.has key := by
  unfold Slot.Filled at h
  unfold Entries.has
  cases hget : members.get? key with
  | none =>
    rw [hget] at h
    cases h
  | some v => rfl

/-- The class stands under the key that the members fit with. -/
theorem fits_classSlots_iff :
    (Fits (classSlots "class") members ∨ Fits (classSlots "class_name") members) ↔
      Fits (classSlots (classKey members)) members := by
  constructor
  · rintro (h | h)
    · have hclass : members.has "class" := has_of_filled (h.filled _ (List.mem_cons_of_mem _ List.mem_cons_self))
      rwa [classKey, if_pos hclass]
    · have hname : members.has "class_name" :=
        has_of_filled (h.filled _ (List.mem_cons_of_mem _ List.mem_cons_self))
      have hclass : ¬members.has "class" := by
        rw [Entries.has_iff]
        intro hkey
        obtain ⟨e, he, hkey⟩ := List.mem_map.mp hkey
        simpa [hkey, classSlots, typeSlot] using h.declared e he
      rwa [classKey, if_neg hclass, if_pos hname]
  · intro h
    unfold classKey at h
    split at h
    · exact Or.inl h
    · split at h
      · exact Or.inr h
      · exact Or.inl h

/-- Both keys of the class are plain words. -/
theorem isEncodable_classKey (members : Entries Document) : (classKey members).isEncodable := by
  unfold classKey
  repeat' split
  all_goals exact Text.isEncodable_ofString _

/-- The class of an analyzer is read if it is a name, and nothing else is said. -/
theorem ofMembers_classpath_iff (htype : members.get? "type" = some (.text "classpath")) :
    (∃ a, ofMembers "classpath" members = .ok a) ↔ Fits (classSlots (classKey members)) members := by
  rw [fits_iff (by simp [classSlots, typeSlot, isEncodable_classKey]), ofMembers, exists_encodableNames_bind_iff,
    if_pos rfl]
  refine and_congr_right fun _ => ?_
  simp only [Checked.map_eq_ok_iff, Prod.exists, Checked.and_eq_ok_iff, closed_eq_ok_iff, exists_const, classSlots,
    List.forall_mem_cons, filled_typeSlot_iff, htype, filled_required_iff holdsName_iff]
  constructor
  · rintro ⟨a, className, ⟨hname, hdeclared⟩, -⟩
    exact ⟨⟨trivial, ⟨className, hname⟩, by simp⟩, hdeclared⟩
  · rintro ⟨⟨-, ⟨className, hname⟩, -⟩, hdeclared⟩
    exact ⟨_, className, ⟨hname, hdeclared⟩, rfl⟩

/-- A snowball analyzer is read if its language is a name and its stop words, if any, are a text. -/
theorem ofMembers_snowball_iff (htype : members.get? "type" = some (.text "snowball")) :
    (∃ a, ofMembers "snowball" members = .ok a) ↔ Fits snowballSlots members := by
  rw [fits_iff (by simp [snowballSlots, typeSlot]), ofMembers, exists_encodableNames_bind_iff, if_neg (by simp)]
  refine and_congr_right fun _ => ?_
  simp only [Checked.map_eq_ok_iff, Prod.exists, Checked.and_eq_ok_iff, closed_eq_ok_iff, exists_const, snowballSlots,
    List.forall_mem_cons, filled_typeSlot_iff, htype, filled_required_iff holdsName_iff,
    filled_optional_iff none holdsTextOrNull_iff]
  constructor
  · rintro ⟨a, language, stopwords, ⟨hlanguage, hstopwords, hdeclared⟩, -⟩
    exact ⟨⟨trivial, ⟨language, hlanguage⟩, ⟨stopwords, hstopwords⟩, by simp⟩, hdeclared⟩
  · rintro ⟨⟨-, ⟨language, hlanguage⟩, ⟨stopwords, hstopwords⟩, -⟩, hdeclared⟩
    exact ⟨_, language, stopwords, ⟨hlanguage, hstopwords, hdeclared⟩, rfl⟩

/-- An analyzer is read from the valid documents. -/
theorem valid_iff {v : Document} : Valid v ↔ ∃ a, read v = .ok a := by
  constructor
  · rintro ⟨members, rfl, h⟩
    rw [← or_assoc, fits_classSlots_iff] at h
    rcases h with h | h
    · have htype : members.get? "type" = some (.text "classpath") :=
        filled_typeSlot_iff.mp (h.filled _ List.mem_cons_self)
      obtain ⟨a, ha⟩ := (ofMembers_classpath_iff htype).mpr h
      exact ⟨a, read_eq_ok_iff.mpr ⟨_, members, rfl, htype, by simp [tags], ha⟩⟩
    · have htype : members.get? "type" = some (.text "snowball") :=
        filled_typeSlot_iff.mp (h.filled _ List.mem_cons_self)
      obtain ⟨a, ha⟩ := (ofMembers_snowball_iff htype).mpr h
      exact ⟨a, read_eq_ok_iff.mpr ⟨_, members, rfl, htype, by simp [tags], ha⟩⟩
  · rintro ⟨a, ha⟩
    obtain ⟨tag, members, rfl, htype, htag, ha⟩ := read_eq_ok_iff.mp ha
    refine ⟨members, rfl, ?_⟩
    rw [← or_assoc, fits_classSlots_iff]
    rcases List.mem_cons.mp htag with rfl | htag
    · exact Or.inl ((ofMembers_classpath_iff htype).mp ⟨a, ha⟩)
    · cases List.mem_singleton.mp htag
      exact Or.inr ((ofMembers_snowball_iff htype).mp ⟨a, ha⟩)

theorem explained_read (v : Document) : (read v).Explained := by
  refine Checked.explained_bind (explained_tagged _ _) fun (tag, members) => Checked.explained_under ?_ _
  refine Checked.explained_bind (explained_encodableNames _) fun _ => ?_
  split
  · exact Checked.explained_map (Checked.explained_and (explained_requiredField explained_name)
      (explained_closed _ _)) _
  · exact Checked.explained_map (Checked.explained_and (explained_requiredField explained_name)
      (Checked.explained_and (explained_optionalField (explained_nullable explained_text)) (explained_closed _ _))) _

end Analyzer

/-! ## Mappers -/

namespace Mapper

/-- The members of a mapper that is fed from one column, with further ones. -/
def columnSlots (tag : Text) (further : List Slot) : List Slot :=
  typeSlot tag :: ⟨"validated", false, HoldsFlag⟩ :: ⟨"column", false, HoldsNameOrNull⟩ :: further

def geoPointSlots : List Slot :=
  [typeSlot "geo_point", ⟨"validated", false, HoldsFlag⟩, ⟨"latitude", true, HoldsName⟩, ⟨"longitude", true, HoldsName⟩,
    ⟨"max_levels", false, HoldsIntegerBetween 1 24⟩]

/-- The members of a mapper with a tag. -/
def slots (tag : Text) : List Slot :=
  if tag = "string" then columnSlots tag [⟨"case_sensitive", false, HoldsFlag⟩]
  else if tag = "text" then columnSlots tag [⟨"analyzer", false, HoldsNameOrNull⟩]
  else if tag = "date" then columnSlots tag [⟨"pattern", false, HoldsName⟩]
  else if tag = "geo_point" then geoPointSlots
  else columnSlots tag []

/-- The document of a mapper. -/
def Valid (v : Document) : Prop :=
  ∃ tag ∈ tags, ∃ members : Entries Document, v = .object members ∧ Fits (slots tag) members

variable {members : Entries Document} {tag : Text} {v : Document} {m : Mapper}

/-! ### One kind of mapper -/

theorem isEncodable_of_mem_slots : ∀ s ∈ slots tag, s.name.isEncodable := by
  unfold slots
  repeat' split
  all_goals simp [columnSlots, geoPointSlots, typeSlot]

/-- The members that all mappers of one column share are read by two readers of their own. -/
theorem filled_columnSlots_iff (htype : members.get? "type" = some (.text tag)) {further : List Slot} :
    (∀ s ∈ columnSlots tag further, s.Filled members) ↔
      (∃ validated, readValidated members = .ok validated) ∧ (∃ column, readColumn members = .ok column) ∧
        ∀ s ∈ further, s.Filled members := by
  simp only [columnSlots, List.forall_mem_cons, filled_typeSlot_iff, htype, true_and, readValidated, readColumn,
    filled_optional_iff false holdsFlag_iff, filled_optional_iff none holdsNameOrNull_iff]

/-- A mapper of one column with a property is read if what is given of its three members is read, and no others are
there. -/
theorem exists_ofMembersWith_iff {α : Type} {property : Text} {default : α} {read : Document → Checked α}
    {make : Option Text → α → Mapping} {Admits : Document → Prop} (htype : members.get? "type" = some (.text tag))
    (h : ∀ v, Admits v ↔ ∃ a, read v = .ok a) :
    (∃ m, ofMembersWith members property (optionalField members property default read) make = .ok m) ↔
      (∀ s ∈ columnSlots tag [⟨property, false, Admits⟩], s.Filled members) ∧
        ∀ e ∈ members, e.1 ∈ (columnSlots tag [⟨property, false, Admits⟩]).map Slot.name := by
  rw [filled_columnSlots_iff htype, List.forall_mem_singleton, filled_optional_iff default h]
  simp only [ofMembersWith_eq_ok_iff]
  constructor
  · rintro ⟨m, validated, column, value, hvalidated, hcolumn, hvalue, hdeclared, -⟩
    exact ⟨⟨⟨validated, hvalidated⟩, ⟨column, hcolumn⟩, ⟨value, hvalue⟩⟩, hdeclared⟩
  · rintro ⟨⟨⟨validated, hvalidated⟩, ⟨column, hcolumn⟩, ⟨value, hvalue⟩⟩, hdeclared⟩
    exact ⟨_, validated, column, value, hvalidated, hcolumn, hvalue, hdeclared, rfl⟩

/-- The same for a mapper of one column without a property. -/
theorem exists_plainOfMembers_iff (type : PlainType) (htype : members.get? "type" = some (.text tag)) :
    (∃ m, plainOfMembers type members = .ok m) ↔
      (∀ s ∈ columnSlots tag [], s.Filled members) ∧ ∀ e ∈ members, e.1 ∈ (columnSlots tag []).map Slot.name := by
  rw [filled_columnSlots_iff htype]
  simp only [plainOfMembers_eq_ok_iff]
  constructor
  · rintro ⟨m, validated, column, hvalidated, hcolumn, hdeclared, -⟩
    exact ⟨⟨⟨validated, hvalidated⟩, ⟨column, hcolumn⟩, by simp⟩, hdeclared⟩
  · rintro ⟨⟨⟨validated, hvalidated⟩, ⟨column, hcolumn⟩, -⟩, hdeclared⟩
    exact ⟨_, validated, column, hvalidated, hcolumn, hdeclared, rfl⟩

/-- A point is read if its two columns are names, and its flag and its number of levels are read where they are
given. -/
theorem exists_geoPointOfMembers_iff (htype : members.get? "type" = some (.text "geo_point")) :
    (∃ m, geoPointOfMembers members = .ok m) ↔
      (∀ s ∈ geoPointSlots, s.Filled members) ∧ ∀ e ∈ members, e.1 ∈ geoPointSlots.map Slot.name := by
  simp only [geoPointOfMembers_eq_ok_iff, geoPointSlots, List.forall_mem_cons, filled_typeSlot_iff, htype, true_and,
    filled_required_iff holdsName_iff, filled_optional_iff 11 holdsIntegerBetween_iff,
    filled_optional_iff false holdsFlag_iff]
  constructor
  · rintro ⟨m, validated, latitude, longitude, levels, hvalidated, hlatitude, hlongitude, hlevels, hdeclared, -⟩
    exact ⟨⟨⟨validated, hvalidated⟩, ⟨latitude, hlatitude⟩, ⟨longitude, hlongitude⟩, ⟨levels, hlevels⟩, by simp⟩,
      hdeclared⟩
  · rintro ⟨⟨⟨validated, hvalidated⟩, ⟨latitude, hlatitude⟩, ⟨longitude, hlongitude⟩, ⟨levels, hlevels⟩, -⟩, hdeclared⟩
    exact ⟨_, validated, latitude, longitude, levels, hvalidated, hlatitude, hlongitude, hlevels, hdeclared, rfl⟩

/-! ### All kinds of mappers -/

/-- Four tags have readers of their own, and the others are those of the plain types. -/
theorem mem_tags_cases (h : tag ∈ tags) :
    tag = "string" ∨ tag = "text" ∨ tag = "date" ∨ tag = "geo_point" ∨ ∃ type : PlainType, tag = type.tag := by
  simp only [tags, List.mem_cons, List.not_mem_nil, or_false] at h
  rcases h with h | h | h | h | h | h | h | h | h | h | h | h
  · exact Or.inl h
  · exact Or.inr (Or.inl h)
  · exact Or.inr (Or.inr (Or.inr (Or.inr ⟨.integer, h⟩)))
  · exact Or.inr (Or.inr (Or.inr (Or.inr ⟨.bigint, h⟩)))
  · exact Or.inr (Or.inr (Or.inr (Or.inr ⟨.float, h⟩)))
  · exact Or.inr (Or.inr (Or.inr (Or.inr ⟨.double, h⟩)))
  · exact Or.inr (Or.inr (Or.inr (Or.inr ⟨.boolean, h⟩)))
  · exact Or.inr (Or.inr (Or.inl h))
  · exact Or.inr (Or.inr (Or.inr (Or.inr ⟨.uuid, h⟩)))
  · exact Or.inr (Or.inr (Or.inr (Or.inr ⟨.inet, h⟩)))
  · exact Or.inr (Or.inr (Or.inr (Or.inr ⟨.blob, h⟩)))
  · exact Or.inr (Or.inr (Or.inr (Or.inl h)))

/-- Members whose names have no UTF-8 form are refused before anything else. -/
theorem isEncodable_of_ofMembers (h : ofMembers tag members = .ok m) : ∀ e ∈ members, e.1.isEncodable := by
  obtain ⟨u, hnames, -⟩ := Checked.bind_eq_ok_iff.mp h
  exact encodableNames_eq_ok_iff.mp hnames

/-- With encodable names the mapper is read by the reader of its kind, and that is enough to fit the slots. -/
theorem exists_ofMembers_iff {body : Checked Mapper}
    (hbody : (∀ e ∈ members, e.1.isEncodable) → ofMembers tag members = body)
    (h : (∃ m, body = .ok m) ↔
      (∀ s ∈ slots tag, s.Filled members) ∧ ∀ e ∈ members, e.1 ∈ (slots tag).map Slot.name) :
    (∃ m, ofMembers tag members = .ok m) ↔ Fits (slots tag) members := by
  rw [fits_iff isEncodable_of_mem_slots, ← h]
  constructor
  · rintro ⟨m, hm⟩
    have hnames := isEncodable_of_ofMembers hm
    exact ⟨hnames, m, hbody hnames ▸ hm⟩
  · rintro ⟨hnames, m, hm⟩
    exact ⟨m, (hbody hnames).trans hm⟩

theorem slots_plain (type : PlainType) : slots type.tag = columnSlots type.tag [] := by
  cases type <;> rfl

/-- Members are read as the mapper of a tag exactly if they fit its slots, one reader at a time. -/
theorem ofMembers_iff_fits (htag : tag ∈ tags) (htype : members.get? "type" = some (.text tag)) :
    (∃ m, ofMembers tag members = .ok m) ↔ Fits (slots tag) members := by
  rcases mem_tags_cases htag with rfl | rfl | rfl | rfl | ⟨type, rfl⟩
  · exact exists_ofMembers_iff ofMembers_string (exists_ofMembersWith_iff htype holdsFlag_iff)
  · exact exists_ofMembers_iff ofMembers_text (exists_ofMembersWith_iff htype holdsNameOrNull_iff)
  · exact exists_ofMembers_iff ofMembers_date (exists_ofMembersWith_iff htype holdsName_iff)
  · exact exists_ofMembers_iff ofMembers_geoPoint (exists_geoPointOfMembers_iff htype)
  · refine exists_ofMembers_iff (fun hnames => ofMembers_plain hnames type) ?_
    rw [slots_plain]
    exact exists_plainOfMembers_iff type htype

/-- The slots of every tag have the tag among them. -/
theorem get?_type_of_fits (h : Fits (slots tag) members) : members.get? "type" = some (.text tag) := by
  refine filled_typeSlot_iff.mp (h.filled _ ?_)
  unfold slots
  repeat' split
  all_goals simp_all [columnSlots, geoPointSlots]

/-- A mapper is read from the valid documents. -/
theorem valid_iff : Valid v ↔ ∃ m, read v = .ok m := by
  constructor
  · rintro ⟨tag, htag, members, rfl, h⟩
    have htype := get?_type_of_fits h
    obtain ⟨m, hm⟩ := (ofMembers_iff_fits htag htype).mpr h
    exact ⟨m, read_eq_ok_iff.mpr ⟨tag, members, rfl, htype, htag, hm⟩⟩
  · rintro ⟨m, hm⟩
    obtain ⟨tag, members, rfl, htype, htag, hm⟩ := read_eq_ok_iff.mp hm
    exact ⟨tag, htag, members, rfl, (ofMembers_iff_fits htag htype).mp ⟨m, hm⟩⟩

theorem explained_ofMembersWith {α : Type} {property : Text} {read : Checked α} {make : Option Text → α → Mapping}
    (h : read.Explained) : (ofMembersWith members property read make).Explained :=
  Checked.explained_map (Checked.explained_and (explained_optionalField explained_flag)
    (Checked.explained_and (explained_optionalField (explained_nullable explained_name))
      (Checked.explained_and h (explained_closed _ _)))) _

theorem explained_read (v : Document) : (read v).Explained := by
  refine Checked.explained_bind (explained_tagged _ _) fun (tag, members) => Checked.explained_under ?_ _
  refine Checked.explained_bind (explained_encodableNames _) fun _ => ?_
  split
  · exact explained_ofMembersWith (explained_optionalField explained_flag)
  split
  · exact explained_ofMembersWith (explained_optionalField (explained_nullable explained_name))
  split
  · exact explained_ofMembersWith (explained_optionalField explained_name)
  split
  · exact Checked.explained_map (Checked.explained_and (explained_optionalField explained_flag)
      (Checked.explained_and (explained_optionalField (explained_nullable explained_name)) (explained_closed _ _))) _
  · exact Checked.explained_map (Checked.explained_and (explained_optionalField explained_flag)
      (Checked.explained_and (explained_requiredField explained_name)
        (Checked.explained_and (explained_requiredField explained_name)
          (Checked.explained_and (explained_optionalField (explained_integerBetween _ _)) (explained_closed _ _))))) _

/-! ### The analyzer of a mapper -/

/-- The analyzer that the document of a mapper names. -/
def namedAnalyzer? : Document → Option Text
  | .object members =>
    match Entries.get? members "type", Entries.get? members "analyzer" with
    | some (.text tag), some (.text analyzer) => if tag = "text" then some analyzer else none
    | _, _ => none
  | _ => none

/-- No mapper but a text names an analyzer. -/
theorem analyzer?_of_ofMembers (htag : tag ≠ "text") (h : ofMembers tag members = .ok m) : m.analyzer? = none := by
  obtain ⟨-, -, h⟩ := Checked.bind_eq_ok_iff.mp h
  split at h
  · obtain ⟨_, _, _, -, -, -, -, rfl⟩ := ofMembersWith_eq_ok_iff.mp h
    rfl
  split at h
  · obtain ⟨_, _, _, -, -, -, -, rfl⟩ := ofMembersWith_eq_ok_iff.mp h
    rfl
  split at h
  · obtain ⟨_, _, -, -, -, rfl⟩ := plainOfMembers_eq_ok_iff.mp h
    rfl
  · obtain ⟨_, _, _, _, -, -, -, -, -, rfl⟩ := geoPointOfMembers_eq_ok_iff.mp h
    rfl

/-- The analyzer of a mapper is the one that its document names. -/
theorem analyzer?_of_read (h : read v = .ok m) : m.analyzer? = namedAnalyzer? v := by
  obtain ⟨tag, members, rfl, htype, -, h⟩ := read_eq_ok_iff.mp h
  by_cases htag : tag = "text"
  · subst htag
    rw [ofMembers_text (isEncodable_of_ofMembers h)] at h
    obtain ⟨validated, column, analyzer, -, -, hanalyzer, -, rfl⟩ := ofMembersWith_eq_ok_iff.mp h
    show analyzer = _
    rw [namedAnalyzer?, htype]
    rcases optionalField_eq_ok_iff.mp hanalyzer with ⟨hget, rfl⟩ | ⟨u, hget, hu⟩
    · rw [hget]
    · rw [hget]
      rcases nullable_eq_ok_iff.mp hu with ⟨rfl, rfl⟩ | ⟨-, t, ht, rfl⟩
      · rfl
      · obtain ⟨rfl, -⟩ := name_eq_ok_iff.mp ht
        rfl
  · rw [analyzer?_of_ofMembers htag h, namedAnalyzer?, htype]
    split
    · next htext _ =>
      cases htext
      rw [if_neg htag]
    · rfl

end Mapper

end IndexOptions
