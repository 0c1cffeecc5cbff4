import IndexOptions.Proofs.Doubles
import IndexOptions.Proofs.Interference
import IndexOptions.Proofs.MappedColumns

/-!
# Resolved configurations

A configuration that options resolve to is well formed (`Config.WellFormed`), whatever the options are: its numbers are
in their ranges, there is a directory, and no name of a data center holds a comma. It is also faithful to the options:
each part is the value of its own option (`OptionMap.Yields`), which the bounds of a configuration leave as it is, and
an option that is left out takes its default (`Config.TakesDefault`).

- `isBinary64_of_refreshSeconds`, `isPositiveWord_of_positiveInteger`: the ranges of the numbers, by the text of an
  option or by its default;
- `excludedDataCenters_eq_nil_iff`: there are no data centers exactly if the option is left out;
- `takesDefault_of_yields`: what is left out takes its default.

`resolve_wellFormed` has all parts together.
-/

namespace IndexOptions

variable {σ : Type}

/-! ## Well-formed configurations -/

/-- A positive integer of 32 bits. -/
def IsPositiveWord (i : Int) : Prop := 1 ≤ i ∧ i ≤ 2 ^ 31 - 1

namespace Config

/-- What every configuration of an index satisfies. -/
structure WellFormed (c : Config σ) : Prop where
  isFinite : c.refreshSeconds.isFinite
  isPositive : c.refreshSeconds.isPositive
  isBinary64 : c.refreshSeconds.IsBinary64
  ramBufferMb : IsPositiveWord c.ramBufferMb
  maxMergeMb : IsPositiveWord c.maxMergeMb
  maxCachedMb : IsPositiveWord c.maxCachedMb
  indexingThreads : -2 ^ 31 ≤ c.indexingThreads ∧ c.indexingThreads ≤ 2 ^ 31 - 1
  indexingQueuesSize : IsPositiveWord c.indexingQueuesSize
  path : ∃ p, c.path = some p
  excludedDataCenters : ∀ d ∈ c.excludedDataCenters, CodePoint.ofChar ',' ∉ d

/-- The part of an option has the default of the option; a schema has none, and a directory that is left out is found
elsewhere. -/
def TakesDefault (c : Config σ) : OptionName → Prop
  | .refreshSeconds => c.refreshSeconds = OptionMap.defaultRefreshSeconds
  | .ramBufferMb => c.ramBufferMb = OptionMap.defaultRamBufferMb
  | .maxMergeMb => c.maxMergeMb = OptionMap.defaultMaxMergeMb
  | .maxCachedMb => c.maxCachedMb = OptionMap.defaultMaxCachedMb
  | .indexingThreads => c.indexingThreads = OptionMap.defaultIndexingThreads
  | .indexingQueuesSize => c.indexingQueuesSize = OptionMap.defaultIndexingQueuesSize
  | .excludedDataCenters => c.excludedDataCenters = OptionMap.defaultExcludedDataCenters
  | .directoryPath => True
  | .schema => False

end Config

namespace OptionMap

open Traced

variable {options : OptionMap} {builder : Builder σ} {naming : Naming} {o : OptionName} {t : Table} {i : Index}
  {c : Config σ}

/-- Each part of a configuration is the value of its own option. -/
structure Yields (options : OptionMap) (t : Table) (i : Index) (naming : Naming) (builder : Builder σ)
    (c : Config σ) : Prop where
  refreshSeconds : options.refreshSeconds = .ok c.refreshSeconds
  ramBufferMb : options.ramBufferMb = .ok c.ramBufferMb
  maxMergeMb : options.maxMergeMb = .ok c.maxMergeMb
  maxCachedMb : options.maxCachedMb = .ok c.maxCachedMb
  indexingThreads : options.indexingThreads = .ok c.indexingThreads
  indexingQueuesSize : options.indexingQueuesSize = .ok c.indexingQueuesSize
  excludedDataCenters : options.excludedDataCenters = c.excludedDataCenters
  path : (options.path (.known t) (.known i) naming).result = .ok c.path
  schema : (options.schema (.known t) builder).result = .ok c.schema

/-! ## Numbers -/

/-- A positive option is in its range, by its text or by its default. -/
theorem isPositiveWord_of_positiveInteger {default j : Int} (hdefault : IsPositiveWord default)
    (h : options.positiveInteger o default = .ok j) : IsPositiveWord j := by
  obtain ⟨hpos, hmost⟩ := hdefault
  have hword : Numeral.isWord default := Numeral.isWord_iff.mpr ⟨by omega, hmost⟩
  have hj : 0 < j := pos_of_positiveInteger (by omega) h
  have hle : j ≤ 2 ^ 31 - 1 := (Numeral.isWord_iff.mp (isWord_of_positiveInteger hword h)).2
  exact ⟨by omega, hle⟩

theorem isBinary64_of_refreshSeconds {x : Double} (h : options.refreshSeconds = .ok x) : x.IsBinary64 := by
  unfold refreshSeconds at h
  split at h
  · cases h
    exact Double.isBinary64_ofInt 60
  · split at h
    · cases h
    · next y hy =>
      split at h
      · cases h
        obtain ⟨hmap, -⟩ := Option.filter_eq_some_iff.mp hy
        obtain ⟨decimal, -, rfl⟩ := Option.map_eq_some_iff.mp hmap
        exact Double.isBinary64_ofDecimal decimal
      · cases h

/-! ## Data centers -/

/-- Text for the data centers names at least one, if only by an empty name. -/
theorem excludedDataCenters_eq_nil_iff :
    options.excludedDataCenters = [] ↔ options.raw .excludedDataCenters = none := by
  unfold excludedDataCenters
  cases options.raw .excludedDataCenters with
  | none => simp [defaultExcludedDataCenters]
  | some raw => simp [dataCenters_ne_nil]

theorem comma_not_mem_of_mem_excludedDataCenters {d : Text} (h : d ∈ options.excludedDataCenters) :
    CodePoint.ofChar ',' ∉ d := by
  unfold excludedDataCenters at h
  split at h
  · cases h
  · exact Text.not_mem_of_mem_splitOn h

/-! ## Directory and schema -/

/-- An index that is known has a directory. -/
theorem exists_of_path {p : Option Path} (h : (options.path (.known t) (.known i) naming).result = .ok p) :
    ∃ q, p = some q := by
  unfold path at h
  split at h
  · cases h
    exact ⟨_, rfl⟩
  · obtain ⟨_, -, h⟩ := bind_eq_ok_iff.mp h
    obtain ⟨base, -, h⟩ := bind_eq_ok_iff.mp h
    cases h
    exact ⟨_, rfl⟩

theorem raw_ne_none_of_schema {table : Identity Table} {s : σ} (h : (options.schema table builder).result = .ok s) :
    options.raw .schema ≠ none := by
  intro hraw
  unfold schema at h
  rw [hraw] at h
  cases h

/-! ## Whole configurations -/

/-- Reading all values is reading each, and the directory and the schema of a known table and a known index. -/
theorem yields_of_resolve {table : Given Table} {index : Given Index}
    (h : (options.resolve table index naming builder).result = .ok c) :
    ∃ t i, table.identity = .known t ∧ index.identity = .known i ∧ options.Yields t i naming builder c ∧
      c.checked = .ok c := by
  cases ht : table.identity with
  | unknown =>
    rw [result_resolve_of_unknown (Or.inl ht)] at h
    cases h
  | known t =>
    cases hi : index.identity with
    | unknown =>
      rw [result_resolve_of_unknown (Or.inr hi)] at h
      cases h
    | known i =>
      rw [result_resolve ht hi] at h
      obtain ⟨hrefresh, hram, hmerge, hcached, hthreads, hqueues, hcenters, hpath, hschema⟩ := values_eq_ok_iff.mp h
      exact ⟨t, i, rfl, rfl, ⟨hrefresh, hram, hmerge, hcached, hthreads, hqueues, hcenters, hpath, hschema⟩,
        checked_of_values h⟩

theorem wellFormed_of_yields (h : options.Yields t i naming builder c) : c.WellFormed where
  isFinite := (refreshSeconds_eq_ok h.refreshSeconds).1
  isPositive := (refreshSeconds_eq_ok h.refreshSeconds).2
  isBinary64 := isBinary64_of_refreshSeconds h.refreshSeconds
  ramBufferMb := isPositiveWord_of_positiveInteger ⟨by decide, by decide⟩ h.ramBufferMb
  maxMergeMb := isPositiveWord_of_positiveInteger ⟨by decide, by decide⟩ h.maxMergeMb
  maxCachedMb := isPositiveWord_of_positiveInteger ⟨by decide, by decide⟩ h.maxCachedMb
  indexingThreads := Numeral.isWord_iff.mp (isWord_of_indexingThreads h.indexingThreads)
  indexingQueuesSize := isPositiveWord_of_positiveInteger ⟨by decide, by decide⟩ h.indexingQueuesSize
  path := exists_of_path h.path
  excludedDataCenters := by
    intro d hd
    rw [← h.excludedDataCenters] at hd
    exact comma_not_mem_of_mem_excludedDataCenters hd

theorem eq_default_of_positiveInteger {default j : Int} (hraw : options.raw o = none)
    (h : options.positiveInteger o default = .ok j) : j = default := by
  rw [positiveInteger, hraw] at h
  exact (Except.ok.inj h).symm

/-- An option that is left out has its default, and the schema is not left out. -/
theorem takesDefault_of_yields (h : options.Yields t i naming builder c) (hraw : options.raw o = none) :
    c.TakesDefault o := by
  cases o with
  | refreshSeconds =>
    have hvalue := h.refreshSeconds
    rw [refreshSeconds, hraw] at hvalue
    exact (Except.ok.inj hvalue).symm
  | ramBufferMb => exact eq_default_of_positiveInteger hraw h.ramBufferMb
  | maxMergeMb => exact eq_default_of_positiveInteger hraw h.maxMergeMb
  | maxCachedMb => exact eq_default_of_positiveInteger hraw h.maxCachedMb
  | indexingThreads =>
    have hvalue := h.indexingThreads
    rw [indexingThreads, hraw] at hvalue
    exact (Except.ok.inj hvalue).symm
  | indexingQueuesSize => exact eq_default_of_positiveInteger hraw h.indexingQueuesSize
  | excludedDataCenters =>
    have hvalue := h.excludedDataCenters
    rw [excludedDataCenters, hraw] at hvalue
    exact hvalue.symm
  | directoryPath => trivial
  | schema => exact raw_ne_none_of_schema h.schema hraw

/-- **Every resolved configuration is well formed and faithful.** The table and the index are known; the configuration
is well formed, its schema fits the table, and it has data centers exactly if they are given. Each part is the value of
its own option, the bounds of a configuration change none of them, and what is left out takes its default. -/
theorem resolve_wellFormed {table : Given Table} {index : Given Index}
    (h : (options.resolve table index naming builder).result = .ok c) :
    ∃ t i, table.identity = .known t ∧ index.identity = .known i ∧ c.WellFormed ∧
      builder.check c.schema t = .ok () ∧
      (c.excludedDataCenters = [] ↔ options.raw .excludedDataCenters = none) ∧
      options.Yields t i naming builder c ∧ c.checked = .ok c ∧
      ∀ o, options.raw o = none → c.TakesDefault o := by
  obtain ⟨t, i, ht, hi, hyields, hchecked⟩ := yields_of_resolve h
  refine ⟨t, i, ht, hi, wellFormed_of_yields hyields, check_of_schema hyields.schema, ?_, hyields, hchecked, ?_⟩
  · rw [← hyields.excludedDataCenters, excludedDataCenters_eq_nil_iff]
  · intro o hraw
    exact takesDefault_of_yields hyields hraw

/-- Options of which some are left out and others are written unevenly. -/
theorem resolve_wellFormed_unevenOptions :
    ∃ c, (unevenOptions.resolve (.bare oneColumn) (.bare bareIndex) dataDirectories.naming schemaBuilder).result =
        .ok c ∧
      c.WellFormed ∧ c.excludedDataCenters ≠ [] ∧ c.maxMergeMb = 5 := by
  obtain ⟨c, hc⟩ : ∃ c, (unevenOptions.resolve (.bare oneColumn) (.bare bareIndex)
      dataDirectories.naming schemaBuilder).result = .ok c :=
    exists_of_isOk (by decide +kernel)
  obtain ⟨t, i, -, -, hwell, -, hcenters, -, -, hdefault⟩ := resolve_wellFormed hc
  have hgiven : unevenOptions.raw .excludedDataCenters ≠ none := by decide
  exact ⟨c, hc, hwell, mt hcenters.mp hgiven, hdefault .maxMergeMb (by decide)⟩

end OptionMap

end IndexOptions
