import IndexOptions.Proofs.EntryPoints
import Mathlib.Data.List.Lex

/-!
# The columns of a schema

The columns that a schema maps are the columns that its fields read, each once (`Schema.mem_mappedColumns_iff`), and in
strictly increasing order of their code points (`Schema.pairwise_mappedColumns`). A schema that fits a table reads no
column that the table does not have (`Schema.exists_type_of_mem_mappedColumns`), and the schema of resolved options fits
their table (`OptionMap.check_of_resolve`).
-/

namespace IndexOptions

namespace Text

variable {s t u : Text} {ts : List Text}

/-! ## Order -/

/-- The numbers of the code points. -/
def numbers (t : Text) : List Nat := t.map CodePoint.val

theorem numbers_injective (h : s.numbers = t.numbers) : s = t :=
  List.map_injective_iff.mpr (fun _ _ => CodePoint.ext) h

/-- Texts are ordered as the lists of their numbers. -/
theorem before_iff : before s t ↔ s.numbers < t.numbers := by
  induction s generalizing t with
  | nil => cases t <;> simp [before, numbers]
  | cons a s ih =>
    cases t with
    | nil => simp [before, numbers]
    | cons b t =>
      simp only [numbers] at ih
      simp [before, numbers, List.cons_lt_cons_iff, ih]

/-! ## Sets in order -/

theorem mem_insertSorted_iff : u ∈ insertSorted t ts ↔ u = t ∨ u ∈ ts := by
  induction ts with
  | nil => simp [insertSorted]
  | cons v r ih =>
    rw [insertSorted]
    split
    · next h => simp [h]
    · split
      · simp
      · simp [ih, or_left_comm]

theorem mem_sortedSet_iff : t ∈ sortedSet ts ↔ t ∈ ts := by
  induction ts with
  | nil => rfl
  | cons u r ih =>
    show t ∈ insertSorted u (sortedSet r) ↔ _
    rw [mem_insertSorted_iff, ih, List.mem_cons]

/-- Putting a text into an increasing list keeps it increasing. -/
theorem pairwise_insertSorted (h : ts.Pairwise fun s t => s.numbers < t.numbers) :
    (insertSorted t ts).Pairwise fun s t => s.numbers < t.numbers := by
  induction ts with
  | nil => exact List.pairwise_singleton _ _
  | cons u r ih =>
    obtain ⟨hu, hr⟩ := List.pairwise_cons.mp h
    rw [insertSorted]
    split
    · exact h
    · next hne =>
      split
      · next hb =>
        have htu : t.numbers < u.numbers := before_iff.mp hb
        refine List.pairwise_cons.mpr ⟨?_, h⟩
        intro v hv
        rcases List.mem_cons.mp hv with rfl | hv
        · exact htu
        · exact htu.trans (hu v hv)
      · next hb =>
        have hle : ¬t.numbers < u.numbers := fun hlt => hb (before_iff.mpr hlt)
        have hut : u.numbers < t.numbers :=
          lt_of_le_of_ne (not_lt.mp hle) fun heq => hne (numbers_injective heq.symm)
        refine List.pairwise_cons.mpr ⟨?_, ih hr⟩
        intro v hv
        rcases mem_insertSorted_iff.mp hv with rfl | hv
        · exact hut
        · exact hu v hv

theorem pairwise_sortedSet (ts : List Text) : (sortedSet ts).Pairwise fun s t => s.numbers < t.numbers := by
  induction ts with
  | nil => exact List.Pairwise.nil
  | cons t ts ih => exact pairwise_insertSorted ih

/-- The order is fixed, so the same texts make the same list. -/
theorem sortedSet_eq_of_mem_iff {us : List Text} (h : ∀ t, t ∈ ts ↔ t ∈ us) : sortedSet ts = sortedSet us := by
  have hnodup : ∀ vs : List Text, (sortedSet vs).Nodup := by
    intro vs
    refine (pairwise_sortedSet vs).imp ?_
    rintro v _ hlt rfl
    exact lt_irrefl _ hlt
  have hperm : (sortedSet ts).Perm (sortedSet us) := by
    refine (List.perm_ext_iff_of_nodup (hnodup ts) (hnodup us)).mpr fun t => ?_
    rw [mem_sortedSet_iff, mem_sortedSet_iff, h]
  exact hperm.eq_of_pairwise (fun _ _ _ _ hlt hgt => absurd hgt (lt_asymm hlt)) (pairwise_sortedSet ts)
    (pairwise_sortedSet us)

end Text

namespace Schema

variable {s : Schema} {t : Table} {column : Text}

/-! ## Mapped columns -/

/-- A column is mapped exactly if a field reads it. -/
theorem mem_mappedColumns_iff :
    column ∈ s.mappedColumns ↔ ∃ field mapper, (field, mapper) ∈ s.fields ∧ column ∈ mapper.columns field := by
  simp [mappedColumns, Text.mem_sortedSet_iff]

theorem pairwise_mappedColumns (s : Schema) : s.mappedColumns.Pairwise fun c d => c.numbers < d.numbers :=
  Text.pairwise_sortedSet _

/-! ## Fitting a table -/

theorem columnFault?_eq_none_iff {field : Text} {mapper : Mapper} :
    columnFault? t field mapper column = none ↔ ∃ type, t.columnType? column = some type ∧ mapper.supports type := by
  unfold columnFault?
  cases t.columnType? column with
  | none => simp
  | some type => cases mapper.supports type <;> simp

theorem mem_reads_iff {field : Text} {mapper : Mapper} :
    (field, mapper, column) ∈ s.reads ↔ (field, mapper) ∈ s.fields ∧ column ∈ mapper.columns field := by
  simp only [reads, List.mem_flatMap, List.mem_map, Prod.exists]
  constructor
  · rintro ⟨_, _, hfield, _, hcolumn, ⟨⟩⟩
    exact ⟨hfield, hcolumn⟩
  · rintro ⟨hfield, hcolumn⟩
    exact ⟨field, mapper, hfield, column, hcolumn, rfl⟩

/-- A schema fits a table exactly if the table has each column that a field reads, with a type that the mapper
supports. -/
theorem checkColumns_eq_ok_iff :
    s.checkColumns t = .ok () ↔
      ∀ field mapper, (field, mapper) ∈ s.fields → ∀ column ∈ mapper.columns field,
        ∃ type, t.columnType? column = some type ∧ mapper.supports type := by
  unfold checkColumns
  split
  · next error hfault =>
    obtain ⟨⟨field, mapper, column⟩, hread, hcolumn⟩ := List.exists_of_findSome?_eq_some hfault
    obtain ⟨hfield, hreads⟩ := mem_reads_iff.mp hread
    have hsome : columnFault? t field mapper column = some error := hcolumn
    constructor
    · intro h
      cases h
    · intro h
      rw [columnFault?_eq_none_iff.mpr (h field mapper hfield column hreads)] at hsome
      cases hsome
  · next hnone =>
    rw [List.findSome?_eq_none_iff] at hnone
    refine ⟨fun _ field mapper hfield column hcolumn => ?_, fun _ => rfl⟩
    exact columnFault?_eq_none_iff.mp (hnone _ (mem_reads_iff.mpr ⟨hfield, hcolumn⟩))

theorem exists_type_of_mem_mappedColumns (h : s.checkColumns t = .ok ()) (hc : column ∈ s.mappedColumns) :
    ∃ type, t.columnType? column = some type := by
  obtain ⟨field, mapper, hfield, hcolumn⟩ := mem_mappedColumns_iff.mp hc
  obtain ⟨type, htype, -⟩ := checkColumns_eq_ok_iff.mp h field mapper hfield column hcolumn
  exact ⟨type, htype⟩

end Schema

/-- The schema of options was checked against the table. -/
theorem OptionMap.check_of_schema {σ : Type} {options : OptionMap} {builder : Builder σ} {t : Table} {s : σ}
    (h : (options.schema (.known t) builder).result = .ok s) : builder.check s t = .ok () := by
  have hinvalid : ∀ {α : Type} {x : Except Failure α} {a : α}, (invalidSchema x).result = .ok a → x = .ok a := by
    intro α x a hx
    cases x with
    | ok b => exact congrArg _ (Except.ok.inj hx)
    | error failure => cases hx
  unfold schema at h
  split at h
  · cases h
  · obtain ⟨_, -, h⟩ := Traced.bind_eq_ok_iff.mp h
    obtain ⟨built, -, h⟩ := Traced.bind_eq_ok_iff.mp h
    obtain ⟨_, -, h⟩ := Traced.bind_eq_ok_iff.mp h
    obtain ⟨_, hcheck, h⟩ := Traced.bind_eq_ok_iff.mp h
    cases h
    exact hinvalid hcheck

/-- The schema of a resolved configuration was checked against the table. -/
theorem OptionMap.check_of_resolve {σ : Type} {options : OptionMap} {builder : Builder σ} {table : Given Table}
    {index : Given Index} {naming : Naming} {t : Table} {i : Index} {c : Config σ} (ht : table.identity = .known t)
    (hi : index.identity = .known i) (h : (options.resolve table index naming builder).result = .ok c) :
    builder.check c.schema t = .ok () := by
  rw [result_resolve ht hi] at h
  obtain ⟨-, -, -, -, -, -, -, -, hschema⟩ := values_eq_ok_iff.mp h
  exact check_of_schema hschema

end IndexOptions
