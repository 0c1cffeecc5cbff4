import IndexOptions.Proofs.Failures
import IndexOptions.Proofs.Values

/-!
# The nine checks

`OptionMap.check` is the check of one option by itself. Whatever way options are looked at, these checks are run in the
order of `OptionName.all`, and neither the index nor a directory service that answers changes what they fail with
(`failure?_check`). So what any run of them fails with is read off one list of errors, `OptionMap.faults`:

- `failures_check` and `failures_attempts`: the checks, and the attempts that a collection is made of, fail with these;
- `values_eq_error_iff` and `values_eq_ok_iff`: reading all values fails with the first of them, or each value is that
  of its own option.

A check fails with a rejection of its own option, unless the option is overlong (`fault?_eq_some`,
`fault?_of_overlong`).
-/

namespace IndexOptions

namespace OptionName

/-- One option is checked before another. -/
def Before (p o : OptionName) : Prop := [p, o].Sublist all

instance : DecidableRel Before := fun _ _ => inferInstanceAs (Decidable (List.Sublist _ _))

theorem mem_all (o : OptionName) : o ∈ all := by
  cases o <;> decide

theorem nodup_all : all.Nodup := by decide

end OptionName

namespace OptionMap

open Traced

variable {σ : Type} {options : OptionMap} {builder : Builder σ} {naming : Naming} {base : Path}

/-! ## One option -/

section One

variable {table : Identity Table} {index : Identity Index} {o : OptionName} {e : ResolveError}

/-- The check of one option, run for its failure only. -/
def check (options : OptionMap) (table : Identity Table) (index : Identity Index) (naming : Naming)
    (builder : Builder σ) : OptionName → Traced Unit
  | .refreshSeconds => (Traced.of options.refreshSeconds).discard
  | .ramBufferMb => (Traced.of options.ramBufferMb).discard
  | .maxMergeMb => (Traced.of options.maxMergeMb).discard
  | .maxCachedMb => (Traced.of options.maxCachedMb).discard
  | .indexingThreads => (Traced.of options.indexingThreads).discard
  | .indexingQueuesSize => (Traced.of options.indexingQueuesSize).discard
  | .excludedDataCenters => (pure options.excludedDataCenters : Traced (List Text)).discard
  | .directoryPath => (options.path table index naming).discard
  | .schema => (options.schema table builder).discard

/-- What the check of an option fails with when there is no index. -/
def fault? (options : OptionMap) (table : Identity Table) (builder : Builder σ) (o : OptionName) :
    Option ResolveError :=
  (options.check table .unknown noNaming builder o).failure?

/-- The directory service is asked for a known table and a known index only. -/
theorem path_eq_ok_of_unknown (options : OptionMap) (table : Identity Table) (naming : Naming) :
    ∃ p, (options.path table .unknown naming).result = .ok p := by
  unfold path
  split
  · exact ⟨_, rfl⟩
  · cases table <;> exact ⟨none, rfl⟩

/-- With a directory service that answers, there is a directory for every index. -/
theorem path_eq_ok_of_naming (options : OptionMap) {t : Table} (i : Index) (h : naming t = .ok base) :
    ∃ p, (options.path (.known t) (.known i) naming).result = .ok (some p) := by
  unfold path
  split
  · exact ⟨_, rfl⟩
  · refine ⟨Directories.indexPath base i.name, ?_⟩
    simp only [result_bind, Traced.emit, Traced.of, h]
    rfl

/-- The index and the directory service matter to the directory only, so nothing else fails because of them. -/
theorem failure?_check (hp : ∃ p, (options.path table index naming).result = .ok p) (o : OptionName) :
    (options.check table index naming builder o).failure? = options.fault? table builder o := by
  cases o with
  | directoryPath =>
    have h₁ : (options.path table index naming).failure? = none := failure?_eq_none_iff.mpr hp
    have h₂ : (options.path table .unknown noNaming).failure? = none :=
      failure?_eq_none_iff.mpr (path_eq_ok_of_unknown options table noNaming)
    simp only [fault?, check, failure?_discard, h₁, h₂]
  | _ => rfl

/-! ## What a check fails with -/

/-- The schema fails with a rejection, whatever the builder fails with. -/
theorem schema_eq_error (h : (options.schema table builder).result = .error e) :
    ∃ reason, e = .rejected ⟨.schema, reason⟩ := by
  have hi : ∀ {α : Type} (x : Except Failure α), (invalidSchema x).result = .error e →
      ∃ reason, e = .rejected ⟨.schema, reason⟩ := by
    intro α x hx
    cases x with
    | ok a => cases hx
    | error failure =>
      cases hx
      exact ⟨_, rfl⟩
  unfold schema at h
  split at h
  · cases h
    exact ⟨_, rfl⟩
  · rcases bind_eq_error_iff.mp h with h | ⟨_, _, h⟩
    · cases h
    rcases bind_eq_error_iff.mp h with h | ⟨s, _, h⟩
    · exact hi _ h
    cases table with
    | unknown => cases h
    | known t =>
      rcases bind_eq_error_iff.mp h with h | ⟨_, _, h⟩
      · cases h
      rcases bind_eq_error_iff.mp h with h | ⟨_, _, h⟩
      · exact hi _ h
      · cases h

/-- A check fails with a rejection of its option or, for an overlong integer, with the number of digits. -/
theorem fault?_eq_some (h : options.fault? table builder o = some e) :
    (∃ reason, e = .rejected ⟨o, reason⟩) ∨
      (options.Overlong o ∧ ∃ raw, options.raw o = some raw ∧ e = .tooManyDigits (Numeral.digitCount raw)) := by
  have hint : o.isInteger → ((∃ reason, e = .rejected ⟨o, reason⟩) ∨
      ∃ raw, options.raw o = some raw ∧ Numeral.IsOverlong raw ∧ e = .tooManyDigits (Numeral.digitCount raw)) →
      (∃ reason, e = .rejected ⟨o, reason⟩) ∨
        (options.Overlong o ∧ ∃ raw, options.raw o = some raw ∧ e = .tooManyDigits (Numeral.digitCount raw)) := by
    rintro ho (hr | ⟨raw, hraw, hl, he⟩)
    · exact Or.inl hr
    · exact Or.inr ⟨⟨ho, raw, hraw, hl⟩, raw, hraw, he⟩
  unfold fault? at h
  cases o with
  | ramBufferMb | maxMergeMb | maxCachedMb | indexingQueuesSize =>
    rw [check, failure?_discard, failure?_eq_some_iff] at h
    exact hint rfl (positiveInteger_eq_error h)
  | indexingThreads =>
    rw [check, failure?_discard, failure?_eq_some_iff] at h
    exact hint rfl (indexingThreads_eq_error h)
  | refreshSeconds =>
    rw [check, failure?_discard, failure?_eq_some_iff] at h
    exact Or.inl (refreshSeconds_eq_error h)
  | excludedDataCenters => cases h
  | directoryPath =>
    obtain ⟨p, hp⟩ := path_eq_ok_of_unknown options table noNaming
    rw [check, failure?_discard, failure?_eq_some_iff, hp] at h
    cases h
  | schema =>
    rw [check, failure?_discard, failure?_eq_some_iff] at h
    exact Or.inl (schema_eq_error h)

/-- The check of an overlong integer fails, and not with a rejection. -/
theorem fault?_of_overlong (h : options.Overlong o) :
    ∃ n, options.fault? table builder o = some (.tooManyDigits n) := by
  obtain ⟨ho, raw, hraw, hl⟩ := h
  refine ⟨Numeral.digitCount raw, ?_⟩
  unfold fault?
  cases o with
  | ramBufferMb | maxMergeMb | maxCachedMb | indexingQueuesSize =>
    rw [check, failure?_discard, failure?_eq_some_iff]
    exact positiveInteger_of_isOverlong hraw hl
  | indexingThreads =>
    rw [check, failure?_discard, failure?_eq_some_iff]
    exact indexingThreads_of_isOverlong hraw hl
  | refreshSeconds | excludedDataCenters | directoryPath | schema => cases ho

end One

/-! ## All checks -/

section All

variable {table : Identity Table} {index : Identity Index} {e : ResolveError} {c : Config σ}

/-- What the checks fail with when there is no index, in their order. -/
def faults (options : OptionMap) (table : Identity Table) (builder : Builder σ) : List ResolveError :=
  OptionName.all.filterMap (options.fault? table builder)

theorem failures_check (hp : ∃ p, (options.path table index naming).result = .ok p) :
    failures (OptionName.all.map (options.check table index naming builder)) = options.faults table builder := by
  have h : failure? ∘ options.check table index naming builder = options.fault? table builder :=
    funext (failure?_check hp)
  rw [failures, faults, List.filterMap_map, h]

/-- The list of attempts leaves out the data centers only, which never fail. -/
theorem failures_attempts :
    failures (options.attempts table .unknown noNaming builder) = options.faults table builder := by
  rw [← failures_check (path_eq_ok_of_unknown options table noNaming)]
  rfl

/-- Reading all values runs the checks up to the first failure. -/
theorem discard_values (options : OptionMap) (table : Identity Table) (index : Identity Index) (naming : Naming)
    (builder : Builder σ) :
    (options.values table index naming builder).discard =
      runAll (OptionName.all.map (options.check table index naming builder)) := by
  simp only [values, OptionName.all, List.map_cons, List.map_nil, runAll, check, discard_bind, discard_pure,
    discard_bind_const, pure_bind]

theorem values_eq_error_iff (hp : ∃ p, (options.path table index naming).result = .ok p) :
    (options.values table index naming builder).result = .error e ↔ (options.faults table builder).head? = some e := by
  rw [← failures_check hp, ← runAll_eq_error_iff, ← discard_values, ← failure?_eq_some_iff, ← failure?_eq_some_iff,
    failure?_discard]

/-- Every value is that of its own option. -/
theorem values_eq_ok_iff : (options.values table index naming builder).result = .ok c ↔
    options.refreshSeconds = .ok c.refreshSeconds ∧ options.ramBufferMb = .ok c.ramBufferMb ∧
      options.maxMergeMb = .ok c.maxMergeMb ∧ options.maxCachedMb = .ok c.maxCachedMb ∧
      options.indexingThreads = .ok c.indexingThreads ∧ options.indexingQueuesSize = .ok c.indexingQueuesSize ∧
      options.excludedDataCenters = c.excludedDataCenters ∧ (options.path table index naming).result = .ok c.path ∧
      (options.schema table builder).result = .ok c.schema := by
  obtain ⟨schema, path, refresh, ram, merge, cached, threads, queues, centers⟩ := c
  simp only [values, bind_eq_ok_iff, Traced.of, pure, Except.ok.injEq, Config.mk.injEq]
  constructor
  · rintro ⟨_, h₁, _, h₂, _, h₃, _, h₄, _, h₅, _, h₆, _, h₇, _, h₈, rfl, rfl, rfl, rfl, rfl, rfl, rfl, rfl, rfl⟩
    exact ⟨h₁, h₂, h₃, h₄, h₅, h₆, rfl, h₇, h₈⟩
  · rintro ⟨h₁, h₂, h₃, h₄, h₅, h₆, rfl, h₇, h₈⟩
    exact ⟨_, h₁, _, h₂, _, h₃, _, h₄, _, h₅, _, h₆, _, h₇, _, h₈, rfl, rfl, rfl, rfl, rfl, rfl, rfl, rfl, rfl⟩

end All

end OptionMap

end IndexOptions
