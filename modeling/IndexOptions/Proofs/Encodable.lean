import IndexOptions.Proofs.Answers
import IndexOptions.Proofs.MappedColumns
import IndexOptions.Proofs.Reading

/-!
# What can be sent

A response can be sent if its numbers are finite and its texts have a UTF-8 form. A resolution can be
(`Http.asSent_resolution`) if the names and the texts that it was made of have such a form: cutting, joining and
trimming texts makes no surrogate half that was not there.

- `Text.isEncodable_join`, `Text.isEncodable_of_mem_splitOn`, `Text.isEncodable_trim`: texts;
- `Path.isEncodable_text`, `Directories.isEncodable_baseFor`: paths;
- `OptionMap.isEncodable_path`: the directory of an index.
-/

namespace IndexOptions

/-! ## Texts -/

namespace Text

variable {sep : CodePoint} {s t : Text} {ts : List Text}

theorem isEncodable_iff : t.isEncodable ↔ ∀ c ∈ t, c.isSurrogate = false := by
  simp [isEncodable]

@[simp] theorem isEncodable_append : (s ++ t).isEncodable ↔ s.isEncodable ∧ t.isEncodable := by
  simp [isEncodable]

/-- A text with no code points but those of another one has a UTF-8 form if that one has. -/
theorem isEncodable_of_subset (h : s ⊆ t) (ht : t.isEncodable) : s.isEncodable :=
  isEncodable_iff.mpr fun c hc => isEncodable_iff.mp ht c (h hc)

/-- Trimming only takes code points away. -/
theorem isEncodable_trim (h : t.isEncodable) : t.trim.isEncodable := by
  refine isEncodable_of_subset ?_ h
  have hend : t.trim <+: t.dropWhile CodePoint.isBlank := List.rdropWhile_prefix _ _
  exact List.Subset.trans hend.subset (List.dropWhile_suffix _).subset

/-- Every piece is part of the text that they are joined to. -/
theorem subset_join {sep : Text} (h : t ∈ ts) : t ⊆ join sep ts := by
  induction ts with
  | nil => cases h
  | cons u ts ih =>
    by_cases hts : ts = []
    · subst hts
      rw [List.mem_singleton.mp h]
      exact List.Subset.refl _
    · rw [join_cons sep u hts]
      rcases List.mem_cons.mp h with rfl | h
      · exact List.Subset.trans (List.subset_append_left _ _) (List.subset_append_left _ _)
      · exact List.Subset.trans (ih h) (List.subset_append_right _ _)

/-- The pieces of a text are part of it, since joined again they are the text. -/
theorem isEncodable_of_mem_splitOn (ht : t.isEncodable) (h : s ∈ splitOn sep t) : s.isEncodable := by
  refine isEncodable_of_subset ?_ ht
  have hsub : s ⊆ join [sep] (splitOn sep t) := subset_join h
  rwa [join_splitOn] at hsub

/-- Joining adds only separators. -/
theorem isEncodable_join {sep : Text} (hsep : sep.isEncodable) (h : ∀ t ∈ ts, t.isEncodable) :
    (join sep ts).isEncodable := by
  induction ts with
  | nil => rfl
  | cons t ts ih =>
    have hts : (join sep ts).isEncodable := ih fun u hu => h u (List.mem_cons_of_mem _ hu)
    by_cases hnil : ts = []
    · subst hnil
      exact h t List.mem_cons_self
    · rw [join_cons sep t hnil]
      simp [hsep, hts, h t List.mem_cons_self]

/-- Hexadecimal digits are ASCII letters and digits. -/
theorem isEncodable_hex (width n : Nat) : (hex width n).isEncodable := by
  induction width generalizing n with
  | zero => rfl
  | succ width ih =>
    have hdigit : Text.isEncodable [CodePoint.ofHexDigit (n % 16)] := by
      have hn : n % 16 < 16 := Nat.mod_lt _ (by decide)
      have hall : ∀ k < 16, Text.isEncodable [CodePoint.ofHexDigit k] := by decide
      exact hall _ hn
    rw [hex, isEncodable_append]
    exact ⟨ih _, hdigit⟩

end Text

/-- A value that is found stands among the entries under its name. -/
theorem Entries.mem_of_get? {α : Type} {es : Entries α} {key : Text} {a : α} (h : es.get? key = some a) :
    (key, a) ∈ es := by
  obtain ⟨before, behind, rfl, -⟩ := List.lookup_eq_some_iff.mp h
  exact List.mem_append_right _ List.mem_cons_self

/-! ## Paths -/

namespace Path

variable {p q : Path} {t : Text}

/-- The components have a UTF-8 form. -/
def IsEncodable (p : Path) : Prop := ∀ c ∈ p.parts, c.isEncodable

/-- The components of a path are pieces of its text. -/
theorem isEncodable_parse (h : t.isEncodable) : (parse t).IsEncodable :=
  fun _ hc => Text.isEncodable_of_mem_splitOn h (List.mem_of_mem_filter hc)

/-- A path that goes on from another one has components of these two only. -/
theorem isEncodable_join (hp : p.IsEncodable) (hq : q.IsEncodable) : (p.join q).IsEncodable := by
  unfold join
  split
  · intro c hc
    rcases List.mem_append.mp hc with hc | hc
    · exact hp c hc
    · exact hq c hc
  · exact hq

/-- The text of a path is its root and its components with slashes between them. -/
theorem isEncodable_text (h : p.IsEncodable) : p.text.isEncodable := by
  have hroot : p.root.text.isEncodable := by cases p.root <;> decide
  have hbody : (Text.join "/" p.parts).isEncodable := Text.isEncodable_join (by decide) h
  unfold text
  dsimp only
  split
  · decide
  · exact Text.isEncodable_append.mpr ⟨hroot, hbody⟩

end Path

namespace Directories

variable {d : Directories} {t : Table} {base : Path} {name : Text}

/-- The base directory of a table is made of the data directory, the keyspace, the name and hexadecimal digits. -/
theorem isEncodable_baseFor (hd : d.data.IsEncodable) (hk : t.keyspace.isEncodable) (hn : t.name.isEncodable) :
    (d.baseFor t).IsEncodable := by
  have hcomponent : (tableComponent t).isEncodable := by
    simp [tableComponent, hn, Uuid.hex, Text.isEncodable_hex]
  exact Path.isEncodable_join (Path.isEncodable_join hd (Path.isEncodable_parse hk))
    (Path.isEncodable_parse hcomponent)

theorem isEncodable_indexPath (hb : base.IsEncodable) (hn : name.isEncodable) : (indexPath base name).IsEncodable :=
  Path.isEncodable_join (Path.isEncodable_join hb (Path.isEncodable_parse (by decide))) (Path.isEncodable_parse hn)

end Directories

/-! ## Documents -/

namespace Document

theorem areEncodable_iff {vs : List Document} : areEncodable vs ↔ ∀ v ∈ vs, v.isEncodable := by
  induction vs with
  | nil => simp [areEncodable]
  | cons v vs ih => simp [areEncodable, ih]

/-- The members of an object have a UTF-8 form if their names and their values do. -/
theorem membersAreEncodable_iff {es : Entries Document} :
    membersAreEncodable es ↔ ∀ e ∈ es, e.1.isEncodable ∧ e.2.isEncodable := by
  induction es with
  | nil => simp [membersAreEncodable]
  | cons e es ih => simp [membersAreEncodable, ih]

theorem membersAreFinite_iff {es : Entries Document} : membersAreFinite es ↔ ∀ e ∈ es, e.2.isFinite := by
  induction es with
  | nil => simp [membersAreFinite]
  | cons e es ih => simp [membersAreFinite, ih]

theorem isEncodable_texts {ts : List Text} : (texts ts).isEncodable ↔ ∀ t ∈ ts, t.isEncodable := by
  show areEncodable (ts.map .text) ↔ _
  simp [areEncodable_iff, isEncodable]

theorem isFinite_texts (ts : List Text) : (texts ts).isFinite := by
  show areFinite (ts.map .text) = true
  induction ts with
  | nil => rfl
  | cons t ts ih => simpa [areFinite, isFinite] using ih

end Document

/-! ## Resolved options -/

namespace OptionMap

variable {σ : Type} {options : OptionMap} {builder : Builder σ} {o : OptionName} {raw : Text}

/-- All words and texts of the options have a UTF-8 form. -/
def IsEncodable (options : OptionMap) : Prop := ∀ e ∈ options, e.1.isEncodable ∧ e.2.isEncodable

/-- The text that is given for an option is one of the texts of the options. -/
theorem isEncodable_raw (h : options.IsEncodable) (hraw : options.raw o = some raw) : raw.isEncodable :=
  (h _ (Entries.mem_of_get? hraw)).2

/-- The names of data centers are pieces of the trimmed text of their option. -/
theorem isEncodable_excludedDataCenters (h : options.IsEncodable) :
    ∀ c ∈ options.excludedDataCenters, c.isEncodable := by
  intro c hc
  unfold excludedDataCenters at hc
  split at hc
  · cases hc
  · next raw hraw => exact Text.isEncodable_of_mem_splitOn (Text.isEncodable_trim (isEncodable_raw h hraw)) hc

/-- The directory of an index has a UTF-8 form if its name and the base directory of its table do. -/
theorem isEncodable_path {t : Table} {i : Index} {naming : Naming} {p : Option Path} (h : options.IsEncodable)
    (hi : i.name.isEncodable) (hn : ∀ base, naming t = .ok base → base.IsEncodable)
    (hp : (options.path (.known t) (.known i) naming).result = .ok p) : ∀ q ∈ p, q.IsEncodable := by
  rintro q rfl
  unfold path at hp
  split at hp
  · next raw hraw =>
    cases hp
    exact Path.isEncodable_parse (isEncodable_raw h hraw)
  · obtain ⟨_, -, hp⟩ := Traced.bind_eq_ok_iff.mp hp
    obtain ⟨base, hbase, hp⟩ := Traced.bind_eq_ok_iff.mp hp
    cases hp
    exact Directories.isEncodable_indexPath (hn base hbase) hi

end OptionMap

/-! ## Responses -/

namespace Http

/-- What can be sent is sent as it is. -/
theorem Response.asSent_eq_self {r : Response} (hf : r.body.isFinite) (he : r.body.isEncodable) : r.asSent = r := by
  unfold asSent unsendable?
  simp [hf, he]

/-- The numbers and texts of a resolution are those of the configuration. -/
theorem asSent_resolution {name : Text} {c : Config Schema} (hname : name.isEncodable)
    (hrefresh : c.refreshSeconds.isFinite) (hcenters : ∀ t ∈ c.excludedDataCenters, t.isEncodable)
    (hpath : ∀ p ∈ c.path, p.text.isEncodable) (hcolumns : ∀ t ∈ c.schema.mappedColumns, t.isEncodable) :
    (resolution name c).asSent = resolution name c := by
  have hpathFinite : (Document.ofText? (c.path.map Path.text)).isFinite := by cases c.path <;> rfl
  have hpathEncodable : (Document.ofText? (c.path.map Path.text)).isEncodable := by
    cases h : c.path with
    | none => rfl
    | some p => exact hpath p h
  refine Response.asSent_eq_self ?_ ?_
  · show Document.membersAreFinite _ = true
    simp [Document.membersAreFinite_iff, Config.describe, Document.isFinite, Document.isFinite_texts, hrefresh,
      hpathFinite]
  · show Document.membersAreEncodable _ = true
    simpa [Document.membersAreEncodable_iff, Config.describe, Document.isEncodable, Document.isEncodable_texts, hname,
      hpathEncodable] using ⟨hcenters, hcolumns⟩

end Http

end IndexOptions
