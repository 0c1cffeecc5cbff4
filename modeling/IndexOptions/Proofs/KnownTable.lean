import IndexOptions.Proofs.EntryPoints
import Mathlib.Data.List.Basic

/-!
# With and without a table

The schema is the one option whose check looks at the table, and it looks at it last: after the schema is built. So what
the check comes to is said by one equation for each way it can go (`schema_of_left_out`, `schema_of_unbuilt`,
`schema_of_built`, `schema_of_built_known`), and a table that is known adds at most one error, at the end:

- `misfit?` is the failure of the column check of the schema that is built, if there is one;
- `faults_known`: the errors with a table are those without one, and then this.

`collectErrors_known` says it for the lists of rejections.
-/

namespace IndexOptions.OptionMap

open Traced

variable {σ : Type} {options : OptionMap} {builder : Builder σ} {raw : Text} {s : σ} {f : Failure} {t : Table}

/-! ## Ways in which the schema is checked -/

/-- The text that is given to the builder: that of the schema, unless it is blank. -/
def schemaText? (options : OptionMap) : Option Text := (options.raw .schema).filter fun raw => !raw.trim.isEmpty

theorem schemaText?_eq_some_iff :
    options.schemaText? = some raw ↔ options.raw .schema = some raw ∧ raw.trim ≠ [] := by
  simp [schemaText?, Option.filter_eq_some_iff]

theorem schema_of_left_out (h : options.schemaText? = none) (table : Identity Table) (builder : Builder σ) :
    options.schema table builder = ⟨[], .error (.rejected ⟨.schema, .required⟩)⟩ := by
  unfold schemaText? at h
  unfold schema
  rw [h]
  rfl

/-- A schema that cannot be built is rejected before the table is looked at. -/
theorem schema_of_unbuilt (h : options.schemaText? = some raw) (hbuild : builder.build raw = .error f)
    (table : Identity Table) :
    options.schema table builder = ⟨[.built raw], .error (.rejected ⟨.schema, .invalid f⟩)⟩ := by
  unfold schemaText? at h
  unfold schema
  rw [h]
  dsimp only
  rw [hbuild]
  rfl

/-- Without a table a schema that is built is taken as it is. -/
theorem schema_of_built (h : options.schemaText? = some raw) (hbuild : builder.build raw = .ok s) :
    options.schema .unknown builder = ⟨[.built raw], .ok s⟩ := by
  unfold schemaText? at h
  unfold schema
  rw [h]
  dsimp only
  rw [hbuild]
  rfl

/-- With a table the columns are checked after the schema is built. -/
theorem schema_of_built_known (h : options.schemaText? = some raw) (hbuild : builder.build raw = .ok s) (t : Table) :
    options.schema (.known t) builder =
      ⟨[.built raw, .checked t],
        ((builder.check s t).mapError fun failure => .rejected ⟨.schema, .invalid failure⟩).map fun _ => s⟩ := by
  unfold schemaText? at h
  unfold schema
  rw [h]
  simp only [hbuild, bind, andThen, emit, invalidSchema, Traced.of, Except.mapError]
  cases builder.check s t <;> rfl

/-! ## Errors with a table -/

/-- The failure of the column check of the schema, if a schema is built and does not fit the table. -/
def misfit? (options : OptionMap) (builder : Builder σ) (t : Table) : Option Failure :=
  options.schemaText?.bind fun raw =>
    match builder.build raw with
    | .error _ => none
    | .ok s =>
      match builder.check s t with
      | .error f => some f
      | .ok () => none

theorem fault?_schema (options : OptionMap) (table : Identity Table) (builder : Builder σ) :
    options.fault? table builder .schema = (options.schema table builder).failure? := by
  rw [fault?, check, failure?_discard]

/-- A schema that does not fit the table was built from its text. -/
theorem misfit?_eq_some_iff :
    options.misfit? builder t = some f ↔
      ∃ raw s, options.schemaText? = some raw ∧ builder.build raw = .ok s ∧ builder.check s t = .error f := by
  unfold misfit?
  rw [Option.bind_eq_some_iff]
  constructor
  · rintro ⟨raw, hraw, h⟩
    split at h
    · cases h
    · next s hbuild =>
      split at h
      · next failure hcheck =>
        cases h
        exact ⟨raw, s, hraw, hbuild, hcheck⟩
      · cases h
  · rintro ⟨raw, s, hraw, hbuild, hcheck⟩
    refine ⟨raw, hraw, ?_⟩
    rw [hbuild]
    dsimp only
    rw [hcheck]

/-- The schema fails for a table as it fails without one or, if it is built, with what its column check fails with. -/
theorem fault?_schema_known (options : OptionMap) (builder : Builder σ) (t : Table) :
    (options.fault? (.known t) builder .schema).toList =
      (options.fault? .unknown builder .schema).toList ++
        ((options.misfit? builder t).map fun failure => .rejected ⟨.schema, .invalid failure⟩).toList := by
  rw [fault?_schema, fault?_schema]
  unfold misfit?
  cases h : options.schemaText? with
  | none =>
    rw [schema_of_left_out h, schema_of_left_out h]
    rfl
  | some raw =>
    rw [Option.bind_some]
    cases hbuild : builder.build raw with
    | error failure =>
      rw [schema_of_unbuilt h hbuild, schema_of_unbuilt h hbuild]
      rfl
    | ok s =>
      rw [schema_of_built h hbuild, schema_of_built_known h hbuild]
      dsimp only
      cases builder.check s t <;> rfl

/-- No other option looks at the table. -/
theorem fault?_known_of_ne {o : OptionName} (h : o ≠ .schema) (table table' : Identity Table) :
    options.fault? table builder o = options.fault? table' builder o := by
  cases o with
  | directoryPath =>
    have hnone : ∀ table, options.fault? table builder .directoryPath = none := by
      intro table
      rw [fault?, check, failure?_discard]
      exact failure?_eq_none_iff.mpr (path_eq_ok_of_unknown options table noNaming)
    rw [hnone, hnone]
  | schema => exact absurd rfl h
  | _ => rfl

/-- The schema comes last. -/
theorem faults_eq_append (options : OptionMap) (table : Identity Table) (builder : Builder σ) :
    options.faults table builder =
      (OptionName.all.filter (· ≠ .schema)).filterMap (options.fault? table builder) ++
        (options.fault? table builder .schema).toList := by
  have hall : OptionName.all.filter (· ≠ .schema) ++ [.schema] = OptionName.all := by decide
  have hlast : [OptionName.schema].filterMap (options.fault? table builder) =
      (options.fault? table builder .schema).toList := by
    cases h : options.fault? table builder .schema <;> simp [h]
  rw [← hlast, ← List.filterMap_append, hall, faults]

/-- A table that is known adds what the column check of the schema fails with, and nothing else. -/
theorem faults_known (options : OptionMap) (builder : Builder σ) (t : Table) :
    options.faults (.known t) builder =
      options.faults .unknown builder ++
        ((options.misfit? builder t).map fun failure => .rejected ⟨.schema, .invalid failure⟩).toList := by
  have hsame : (OptionName.all.filter (· ≠ .schema)).filterMap (options.fault? (.known t) builder) =
      (OptionName.all.filter (· ≠ .schema)).filterMap (options.fault? .unknown builder) := by
    refine List.filterMap_congr ?_
    intro o ho
    exact fault?_known_of_ne (of_decide_eq_true (List.mem_filter.mp ho).2) _ _
  rw [faults_eq_append, faults_eq_append, fault?_schema_known, hsame, List.append_assoc]

/-! ## All rejections -/

section Rejections

variable {without table : Given Table} {rs : List Rejection}

/-- Collecting with a table gives what it gives without one, and then the failure of the column check. -/
theorem collectErrors_eq_append (hwithout : without.identity = .unknown) (ht : table.identity = .known t)
    (h : (options.collectErrors without builder).result = .ok rs) :
    (options.collectErrors table builder).result =
      .ok (rs ++ ((options.misfit? builder t).map fun failure => ⟨.schema, .invalid failure⟩).toList) := by
  rw [collectErrors_eq_ok_iff, hwithout] at h
  rw [collectErrors_eq_ok_iff, ht, faults_known, h, List.map_append]
  cases options.misfit? builder t <;> rfl

/-- The column check fails after a list of rejections exactly if the schema is none of them and is built to one that
does not fit. -/
theorem misfit?_eq_some_iff_of_collected (hwithout : without.identity = .unknown)
    (h : (options.collectErrors without builder).result = .ok rs) :
    options.misfit? builder t = some f ↔
      (∀ r ∈ rs, r.option ≠ .schema) ∧
        ∃ raw s, options.raw .schema = some raw ∧ builder.build raw = .ok s ∧ builder.check s t = .error f := by
  rw [collectErrors_eq_ok_iff, hwithout] at h
  constructor
  · intro hmisfit
    obtain ⟨raw, s, hraw, hbuild, hcheck⟩ := misfit?_eq_some_iff.mp hmisfit
    refine ⟨?_, raw, s, (schemaText?_eq_some_iff.mp hraw).1, hbuild, hcheck⟩
    intro r hr hoption
    have hfault : options.fault? .unknown builder r.option = some (.rejected r) := by
      rw [← rejected_mem_faults_iff, h]
      exact List.mem_map_of_mem hr
    rw [hoption, fault?_schema, schema_of_built hraw hbuild] at hfault
    cases hfault
  · rintro ⟨hnone, raw, s, hraw, hbuild, hcheck⟩
    refine misfit?_eq_some_iff.mpr ⟨raw, s, schemaText?_eq_some_iff.mpr ⟨hraw, ?_⟩, hbuild, hcheck⟩
    intro hblank
    have hleft : options.schemaText? = none := by
      rw [schemaText?, hraw]
      simp [hblank]
    have hfault : options.fault? .unknown builder .schema = some (.rejected ⟨.schema, .required⟩) := by
      rw [fault?_schema, schema_of_left_out hleft]
      rfl
    have hmem : ResolveError.rejected ⟨.schema, .required⟩ ∈ rs.map .rejected := by
      rw [← h]
      exact rejected_mem_faults_iff.mpr hfault
    obtain ⟨r, hr, heq⟩ := List.mem_map.mp hmem
    cases heq
    exact hnone _ hr rfl

/-- **A table that is known adds a column check and nothing else.** If all rejections can be told without the table,
they can be told with it: they are the same, or there is just one more, behind them, and it is about the schema. There
is one more exactly if no rejection is about the schema and the schema that is built does not fit the table; this is
then its failure. So options that pass with a table pass without one. -/
theorem collectErrors_known (options : OptionMap) (builder : Builder σ) (hwithout : without.identity = .unknown)
    (ht : table.identity = .known t) :
    (∀ rs, (options.collectErrors without builder).result = .ok rs →
      ((options.collectErrors table builder).result = .ok rs ∨
        ∃ reason, (options.collectErrors table builder).result = .ok (rs ++ [⟨.schema, reason⟩])) ∧
      ∀ reason, (options.collectErrors table builder).result = .ok (rs ++ [⟨.schema, reason⟩]) ↔
        (∀ r ∈ rs, r.option ≠ .schema) ∧ ∃ raw s f, options.raw .schema = some raw ∧ builder.build raw = .ok s ∧
          builder.check s t = .error f ∧ reason = .invalid f) ∧
    ((options.validate table builder).result = .ok () → (options.validate without builder).result = .ok ()) := by
  refine ⟨?_, ?_⟩
  · intro rs h
    have happend := collectErrors_eq_append hwithout ht h
    have hmisfit : ∀ f, options.misfit? builder t = some f ↔ _ := fun f => misfit?_eq_some_iff_of_collected hwithout h
    constructor
    · cases hm : options.misfit? builder t with
      | none =>
        rw [hm] at happend
        exact Or.inl (by simpa using happend)
      | some f =>
        rw [hm] at happend
        exact Or.inr ⟨_, happend⟩
    · intro reason
      rw [happend, Except.ok.injEq, List.append_cancel_left_eq]
      constructor
      · intro hlist
        obtain ⟨f, hf, hreason⟩ : ∃ f, options.misfit? builder t = some f ∧ reason = .invalid f := by
          cases hm : options.misfit? builder t with
          | none =>
            rw [hm] at hlist
            cases hlist
          | some f =>
            rw [hm] at hlist
            cases hlist
            exact ⟨f, rfl, rfl⟩
        obtain ⟨hnone, raw, s, hraw, hbuild, hcheck⟩ := (hmisfit f).mp hf
        exact ⟨hnone, raw, s, f, hraw, hbuild, hcheck, hreason⟩
      · rintro ⟨hnone, raw, s, f, hraw, hbuild, hcheck, rfl⟩
        rw [(hmisfit f).mpr ⟨hnone, raw, s, hraw, hbuild, hcheck⟩]
        rfl
  · rw [validate_eq_ok_iff, validate_eq_ok_iff, ht, hwithout, faults_known]
    exact fun h => (List.append_eq_nil_iff.mp h).1

end Rejections

/-- A schema that reads a column of another table, and a number that is no number. -/
def foreignColumn : OptionMap :=
  [(OptionName.refreshSeconds.text, "never"),
    (OptionName.schema.text, "\x7b\"fields\": \x7b\"author\": \x7b\"type\": \"string\"\x7d\x7d\x7d")]

/-- Without the table the number alone is rejected, and with it the schema is rejected too. -/
theorem collectErrors_known_foreignColumn :
    ∃ rs f, (foreignColumn.collectErrors .unknown schemaBuilder).result = .ok rs ∧
      rs.map Rejection.option = [.refreshSeconds] ∧
      (foreignColumn.collectErrors (.bare oneColumn) schemaBuilder).result = .ok (rs ++ [⟨.schema, .invalid f⟩]) := by
  have hoptions : (foreignColumn.collectErrors .unknown schemaBuilder).result.toOption.map
      (List.map Rejection.option) = some [.refreshSeconds] := by decide +kernel
  obtain ⟨rs, hresult, hrs⟩ := Option.map_eq_some_iff.mp hoptions
  rw [toOption_eq_some_iff] at hresult
  have hmisfit : (foreignColumn.misfit? schemaBuilder oneColumn).isSome := by decide +kernel
  obtain ⟨f, hf⟩ := Option.isSome_iff_exists.mp hmisfit
  obtain ⟨raw, s, hraw, hbuild, hcheck⟩ := misfit?_eq_some_iff.mp hf
  have hnone : ∀ r ∈ rs, r.option ≠ .schema := by
    intro r hr
    have hmem : r.option ∈ rs.map Rejection.option := List.mem_map_of_mem hr
    rw [hrs, List.mem_singleton] at hmem
    rw [hmem]
    decide
  refine ⟨rs, f, hresult, hrs, ?_⟩
  have hknown := (@collectErrors_known _ oneColumn .unknown (.bare oneColumn) foreignColumn schemaBuilder rfl rfl).1
  exact ((hknown rs hresult).2 _).mpr
    ⟨hnone, raw, s, f, (schemaText?_eq_some_iff.mp hraw).1, hbuild, hcheck, rfl⟩

end IndexOptions.OptionMap
