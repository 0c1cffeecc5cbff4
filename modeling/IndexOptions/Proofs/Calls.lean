import IndexOptions.Proofs.Interference
import IndexOptions.Proofs.KnownTable

/-!
# Which collaborators are called

Checking options calls on a directory service and on a builder, and on the schema that was built. Each call is an event,
so which calls are made, how often and in which order is told by one list (`Traced.calls`). The checks before the
directory call nobody, so what matters of them is only whether all of them pass (`OptionMap.Reached`):

- `events_path`: the directory service is asked once if the directory is not given, for a known table and index;
- `schemaCalls_schema`: the builder is given the text as it is, and then the columns are checked of what it built;
- `events_values`, `events_values_of_not_reached`: both in this order if the checks before pass, and else neither;
- `events_collectFrom_of_ok`: a collection that comes to a list has run all its checks.

`calls_made_when_reached` puts these together for the three ways to look at options.
-/

namespace IndexOptions

/-- The event is a call and no record of the log. -/
def Event.isCall : Event → Bool
  | .logged _ => false
  | _ => true

namespace Traced

variable {α β : Type} {xs ys : List (Traced Unit)}

/-- The calls among events, in order. -/
def calls (es : List Event) : List Event := es.filter Event.isCall

theorem calls_append (es es' : List Event) : calls (es ++ es') = calls es ++ calls es' := List.filter_append es es'

/-! ## Events of runs -/

theorem runAll_append (xs ys : List (Traced Unit)) : runAll (xs ++ ys) = runAll xs >>= fun _ => runAll ys := by
  induction xs with
  | nil => exact (pure_bind () fun _ => runAll ys).symm
  | cons x xs ih =>
    show (x >>= fun _ => runAll (xs ++ ys)) = (x >>= fun _ => runAll xs) >>= fun _ => runAll ys
    rw [ih, bind_assoc]

theorem events_runAll_append (h : failures xs = []) :
    (runAll (xs ++ ys)).events = (runAll xs).events ++ (runAll ys).events := by
  rw [runAll_append, bind_of_ok (runAll_eq_ok_iff.mpr h)]

/-- Checks behind a failure are not run. -/
theorem events_runAll_append_of_failed (h : failures xs ≠ []) : (runAll (xs ++ ys)).events = (runAll xs).events := by
  obtain ⟨e, es, he⟩ := List.exists_cons_of_ne_nil h
  have herror : (runAll xs).result = .error e := by rw [runAll_eq_error_iff, he]; rfl
  rw [runAll_append, bind_of_error herror]

theorem events_runAll_of_quiet (h : ∀ x ∈ xs, x.events = []) : (runAll xs).events = [] := by
  induction xs with
  | nil => rfl
  | cons x xs ih =>
    have hx : x.events = [] := h x List.mem_cons_self
    have hxs : (runAll xs).events = [] := ih fun y hy => h y (List.mem_cons_of_mem _ hy)
    rw [runAll]
    cases hr : x.result with
    | ok a => rw [bind_of_ok hr, hx, hxs]; rfl
    | error e => rw [bind_of_error hr, hx]

end Traced

namespace OptionMap

open Traced

variable {σ : Type} {options : OptionMap} {builder : Builder σ} {table : Identity Table} {index : Identity Index}
  {naming : Naming} {base : Path} {t : Table}

/-! ## Events of collections -/

/-- A collection that comes to a list has run all its checks. -/
theorem events_collectFrom_of_ok {xs : List (Traced Unit)} {rs : List Rejection}
    (h : (collectFrom xs).result = .ok rs) :
    (collectFrom xs).events = xs.flatMap Traced.events := by
  induction xs generalizing rs with
  | nil => rfl
  | cons x xs ih =>
    rw [collectFrom] at h ⊢
    rw [List.flatMap_cons]
    cases hx : x.result with
    | ok a =>
      rw [hx] at h
      dsimp only at h ⊢
      rw [ih h]
    | error e =>
      rw [hx] at h
      cases e with
      | rejected r =>
        dsimp only at h ⊢
        cases hxs : (collectFrom xs).result with
        | ok rs' => rw [ih hxs]
        | error e => rw [hxs] at h; cases h
      | tooManyDigits _ | unknownIdentity | settings _ | config _ => cases h

/-- A collection that is ended by one of the first checks does not run those behind. -/
theorem events_collectFrom_append {xs ys : List (Traced Unit)} {e : ResolveError} (he : e ∈ failures xs)
    (hr : ∀ r, e ≠ .rejected r) : (collectFrom (xs ++ ys)).events = (collectFrom xs).events := by
  induction xs with
  | nil => cases he
  | cons x xs ih =>
    rw [List.cons_append, collectFrom, collectFrom]
    rw [failures_cons, List.mem_append] at he
    cases hx : x.result with
    | ok a =>
      rw [failure?_eq_none_iff.mpr ⟨a, hx⟩] at he
      dsimp only
      rw [ih (he.resolve_left (by simp))]
    | error e' =>
      cases e' with
      | rejected r =>
        rw [failure?_eq_some_iff.mpr hx] at he
        dsimp only
        rw [ih (he.resolve_left (by simpa using hr r))]
      | tooManyDigits _ | unknownIdentity | settings _ | config _ => rfl

theorem events_collectFrom_of_quiet {xs : List (Traced Unit)} (h : ∀ x ∈ xs, x.events = []) :
    (collectFrom xs).events = [] := by
  induction xs with
  | nil => rfl
  | cons x xs ih =>
    have hx : x.events = [] := h x List.mem_cons_self
    have hxs : (collectFrom xs).events = [] := ih fun y hy => h y (List.mem_cons_of_mem _ hy)
    rw [collectFrom]
    split
    · rw [hx, hxs]; rfl
    · rw [hx, hxs]; rfl
    · rw [hx]

/-! ## The checks before the directory -/

/-- The options that are checked before the directory, in order. -/
def earlier : List OptionName := OptionName.all.filter fun o => OptionName.Before o .directoryPath

theorem all_eq_append : OptionName.all = earlier ++ [.directoryPath, .schema] := by decide

/-- Each option that is checked before the directory is valid, by itself. -/
def Reached (options : OptionMap) (builder : Builder σ) : Prop :=
  ∀ o, OptionName.Before o .directoryPath → options.fault? .unknown builder o = none

/-- They call nobody. -/
theorem events_check_of_before {o : OptionName} (h : OptionName.Before o .directoryPath) (options : OptionMap)
    (table : Identity Table) (index : Identity Index) (naming : Naming) (builder : Builder σ) :
    (options.check table index naming builder o).events = [] := by
  cases o with
  | directoryPath | schema => exact absurd h (by decide)
  | _ => rfl

theorem events_of_mem_earlier {x : Traced Unit} (h : x ∈ earlier.map (options.check table index naming builder)) :
    x.events = [] := by
  obtain ⟨o, ho, rfl⟩ := List.mem_map.mp h
  exact events_check_of_before (of_decide_eq_true (List.mem_filter.mp ho).2) _ _ _ _ _

/-- Neither the table, the index nor the directory service matters to them. -/
theorem failures_earlier_eq_nil_iff (hp : ∃ p, (options.path table index naming).result = .ok p) :
    failures (earlier.map (options.check table index naming builder)) = [] ↔ options.Reached builder := by
  unfold failures Reached
  rw [List.filterMap_eq_nil_iff, List.forall_mem_map]
  have hsame : ∀ o, OptionName.Before o .directoryPath →
      (options.check table index naming builder o).failure? = options.fault? .unknown builder o := by
    intro o ho
    have hne : o ≠ .schema := by
      rintro rfl
      exact absurd ho (by decide)
    rw [failure?_check hp, fault?_known_of_ne hne]
  constructor
  · intro h o ho
    rw [← hsame o ho]
    exact h o (List.mem_filter.mpr ⟨OptionName.mem_all o, decide_eq_true ho⟩)
  · intro h o ho
    have hbefore : OptionName.Before o .directoryPath := of_decide_eq_true (List.mem_filter.mp ho).2
    rw [hsame o hbefore]
    exact h o hbefore

/-! ## Directory and schema -/

/-- What is asked for the directory of an index on a table: its base directory, if the directory is not given. -/
def directoryCalls (options : OptionMap) (t : Table) : List Event :=
  if options.raw .directoryPath = none then [.asked t] else []

theorem events_path (i : Index) (h : naming t = .ok base) :
    (options.path (.known t) (.known i) naming).events = options.directoryCalls t := by
  unfold path directoryCalls
  cases options.raw .directoryPath with
  | some raw => rfl
  | none =>
    simp only [h]
    rfl

theorem events_path_of_unknown (options : OptionMap) (table : Identity Table) (naming : Naming) :
    (options.path table .unknown naming).events = [] := by
  unfold path
  split
  · rfl
  · cases table <;> rfl

/-- What the check of the schema calls, for a table or without one: the builder, with the text as it is given, unless
there is none or it is blank; and then the schema that was built, to check the columns of a table that is known. -/
inductive SchemaCalls (options : OptionMap) (builder : Builder σ) : Identity Table → List Event → Prop
  | leftOut {table : Identity Table} (h : options.raw .schema = none) : SchemaCalls options builder table []
  | blank {table : Identity Table} {raw : Text} (h : options.raw .schema = some raw) (hblank : raw.trim = []) :
    SchemaCalls options builder table []
  | unbuilt {table : Identity Table} {raw : Text} {f : Failure} (h : options.raw .schema = some raw)
    (hblank : raw.trim ≠ []) (hbuild : builder.build raw = .error f) :
    SchemaCalls options builder table [.built raw]
  | built {raw : Text} {s : σ} (h : options.raw .schema = some raw) (hblank : raw.trim ≠ [])
    (hbuild : builder.build raw = .ok s) : SchemaCalls options builder .unknown [.built raw]
  | checked {t : Table} {raw : Text} {s : σ} (h : options.raw .schema = some raw) (hblank : raw.trim ≠ [])
    (hbuild : builder.build raw = .ok s) : SchemaCalls options builder (.known t) [.built raw, .checked t]

theorem schemaCalls_schema (options : OptionMap) (builder : Builder σ) (table : Identity Table) :
    options.SchemaCalls builder table (options.schema table builder).events := by
  cases h : options.schemaText? with
  | none =>
    rw [schema_of_left_out h]
    cases hraw : options.raw .schema with
    | none => exact .leftOut hraw
    | some raw =>
      refine .blank hraw ?_
      by_contra hblank
      rw [schemaText?_eq_some_iff.mpr ⟨hraw, hblank⟩] at h
      cases h
  | some raw =>
    obtain ⟨hraw, hblank⟩ := schemaText?_eq_some_iff.mp h
    cases hbuild : builder.build raw with
    | error f =>
      rw [schema_of_unbuilt h hbuild]
      exact .unbuilt hraw hblank hbuild
    | ok s =>
      cases table with
      | unknown =>
        rw [schema_of_built h hbuild]
        exact .built hraw hblank hbuild
      | known t =>
        rw [schema_of_built_known h hbuild]
        exact .checked hraw hblank hbuild

theorem calls_of_schemaCalls {es : List Event} (h : options.SchemaCalls builder table es) : calls es = es := by
  cases h <;> rfl

theorem calls_directoryCalls (options : OptionMap) (t : Table) :
    calls (options.directoryCalls t) = options.directoryCalls t := by
  unfold directoryCalls
  split <;> rfl

/-! ## All values -/

/-- Reading all values leaves the events of the directory and of the schema, if the checks before pass. -/
theorem events_values (hp : ∃ p, (options.path table index naming).result = .ok p) (h : options.Reached builder) :
    (options.values table index naming builder).events =
      (options.path table index naming).events ++ (options.schema table builder).events := by
  have hlast : (runAll [(options.path table index naming).discard, (options.schema table builder).discard]).events =
      (options.path table index naming).events ++ (options.schema table builder).events := by
    obtain ⟨p, hp⟩ := hp
    rw [runAll, runAll, discard_bind_const, bind_of_ok hp, discard_bind_const]
    cases hs : (options.schema table builder).result with
    | ok s => rw [bind_of_ok hs]; simp [runAll, pure, Traced.of]
    | error e => rw [bind_of_error hs]
  show (options.values table index naming builder).discard.events = _
  rw [discard_values, all_eq_append, List.map_append, events_runAll_append ((failures_earlier_eq_nil_iff hp).mpr h),
    events_runAll_of_quiet fun x hx => events_of_mem_earlier hx, List.nil_append]
  exact hlast

theorem events_values_of_not_reached (hp : ∃ p, (options.path table index naming).result = .ok p)
    (h : ¬options.Reached builder) : (options.values table index naming builder).events = [] := by
  show (options.values table index naming builder).discard.events = _
  rw [discard_values, all_eq_append, List.map_append,
    events_runAll_append_of_failed (mt (failures_earlier_eq_nil_iff hp).mp h)]
  exact events_runAll_of_quiet fun x hx => events_of_mem_earlier hx

/-! ## Ways to look at options -/

section EntryPoints

variable {table : Given Table} {index : Given Index} {i : Index}

theorem calls_logOptions (options : OptionMap) (message : Text) : calls (options.logOptions message).events = [] :=
  List.filter_eq_nil_iff.mpr (each_logOptions (fun key value => by simp [Event.isCall]) options)

theorem calls_logOptions_bind {α : Type} (options : OptionMap) (message : Text) (f : Unit → Traced α) :
    calls (options.logOptions message >>= f).events = calls (f ()).events := by
  rw [events_logOptions_bind, calls_append, calls_logOptions, List.nil_append]

/-- Resolving calls what reading the values calls. -/
theorem calls_resolve (ht : table.identity = .known t) (hi : index.identity = .known i) (naming : Naming)
    (builder : Builder σ) :
    calls (options.resolve table index naming builder).events =
      calls (options.values (.known t) (.known i) naming builder).events := by
  unfold resolve
  rw [ht, hi]
  dsimp only
  rw [calls_logOptions_bind]
  cases h : (options.values (.known t) (.known i) naming builder).result with
  | error e => rw [bind_of_error h]
  | ok c =>
    rw [bind_of_ok h, calls_append, checked_of_values h]
    simp [calls, bind, andThen, Traced.of, emit, pure, Except.mapError, Event.isCall]

theorem calls_validate (options : OptionMap) (table : Given Table) (builder : Builder σ) :
    calls (options.validate table builder).events =
      calls (options.values table.identity .unknown noNaming builder).events :=
  calls_logOptions_bind _ _ _

theorem calls_collectErrors (options : OptionMap) (table : Given Table) (builder : Builder σ) :
    calls (options.collectErrors table builder).events =
      calls (collectFrom (options.attempts table.identity .unknown noNaming builder)).events :=
  calls_logOptions_bind _ _ _

/-- The calls of a reading without an index are those of the schema, if it is reached. -/
theorem schemaCalls_values (table : Identity Table) (h : options.Reached builder) :
    options.SchemaCalls builder table (calls (options.values table .unknown noNaming builder).events) := by
  have hschema := schemaCalls_schema options builder table
  rw [events_values (path_eq_ok_of_unknown options table noNaming) h, events_path_of_unknown, List.nil_append,
    calls_of_schemaCalls hschema]
  exact hschema

/-- The attempts are the checks of the numbers, the directory and the schema. -/
theorem attempts_eq_append (options : OptionMap) (table : Identity Table) (builder : Builder σ) :
    options.attempts table .unknown noNaming builder =
      [.refreshSeconds, .ramBufferMb, .maxMergeMb, .maxCachedMb, .indexingThreads, .indexingQueuesSize].map
          (options.check table .unknown noNaming builder) ++
        [(options.path table .unknown noNaming).discard, (options.schema table builder).discard] := rfl

/-- A collection that comes to a list has called what the schema calls, whatever else was rejected. -/
theorem schemaCalls_collectErrors {rs : List Rejection} (h : (options.collectErrors table builder).result = .ok rs) :
    options.SchemaCalls builder table.identity (calls (options.collectErrors table builder).events) := by
  have hschema := schemaCalls_schema options builder table.identity
  have hevents : (collectFrom (options.attempts table.identity .unknown noNaming builder)).events =
      (options.schema table.identity builder).events := by
    have hpath : (options.path table.identity .unknown noNaming).discard.events = [] := events_path_of_unknown _ _ _
    rw [events_collectFrom_of_ok h, attempts_eq_append, List.flatMap_append, List.flatMap_cons, hpath]
    exact List.append_nil _
  rw [calls_collectErrors, hevents, calls_of_schemaCalls hschema]
  exact hschema

/-- A collection that does not come to a list ends before the directory and the schema. -/
theorem calls_collectErrors_of_error {e : ResolveError} (h : (options.collectErrors table builder).result = .error e) :
    calls (options.collectErrors table builder).events = [] := by
  have hfault : e ∈ failures (options.attempts table.identity .unknown noNaming builder) ∧ ∀ r, e ≠ .rejected r :=
    mem_failures_of_collectFrom h
  obtain ⟨he, hr⟩ := hfault
  have hpath : (options.path table.identity .unknown noNaming).failure? = none :=
    failure?_eq_none_iff.mpr (path_eq_ok_of_unknown _ _ _)
  have hschema : ∀ e, (options.schema table.identity builder).failure? = some e → ∃ r, e = .rejected r := by
    intro e hs
    obtain ⟨reason, rfl⟩ := schema_eq_error (failure?_eq_some_iff.mp hs)
    exact ⟨_, rfl⟩
  rw [attempts_eq_append, failures, List.filterMap_append, List.mem_append] at he
  rw [calls_collectErrors, attempts_eq_append]
  have hbefore : ∀ o ∈ [OptionName.refreshSeconds, .ramBufferMb, .maxMergeMb, .maxCachedMb, .indexingThreads,
      .indexingQueuesSize], OptionName.Before o .directoryPath := by decide
  rcases he with he | he
  · rw [events_collectFrom_append he hr, events_collectFrom_of_quiet]
    · rfl
    · intro x hx
      obtain ⟨o, ho, rfl⟩ := List.mem_map.mp hx
      exact events_check_of_before (hbefore o ho) _ _ _ _ _
  · obtain ⟨x, hx, hfailure⟩ := List.mem_filterMap.mp he
    rcases List.mem_cons.mp hx with rfl | hx
    · rw [failure?_discard, hpath] at hfailure
      cases hfailure
    · rw [List.mem_singleton.mp hx, failure?_discard] at hfailure
      obtain ⟨r, rfl⟩ := hschema e hfailure
      exact absurd rfl (hr r)

/-- **Collaborators are called at most once, in order, and only when they are reached.**

- Resolving without a table or without an index fails at once and leaves no event at all.
- Resolving for a table and an index, with a directory service that answers, asks for the base directory of the table if
  the directory is not given, then gives the text of the schema to the builder and then has the columns checked of what
  is built; all of this if the options before are valid, and else nothing.
- Checking without an index does the same, but asks for no directory, and checks columns only of a table that is known.
- A collection that comes to a list has done this for the schema whatever the other options are, and one that does not
  has called nobody. -/
theorem calls_made_when_reached (options : OptionMap) (builder : Builder σ) :
    (∀ (table : Given Table) (index : Given Index) (naming : Naming),
      table.identity = .unknown ∨ index.identity = .unknown →
      options.resolve table index naming builder = ⟨[], .error .unknownIdentity⟩) ∧
    (∀ (table : Given Table) (index : Given Index) (t : Table) (i : Index) (naming : Naming) (base : Path),
      table.identity = .known t → index.identity = .known i → naming t = .ok base →
      (options.Reached builder → ∃ es, options.SchemaCalls builder (.known t) es ∧
        calls (options.resolve table index naming builder).events = options.directoryCalls t ++ es) ∧
      (¬options.Reached builder → calls (options.resolve table index naming builder).events = [])) ∧
    (∀ table : Given Table,
      (options.Reached builder →
        options.SchemaCalls builder table.identity (calls (options.validate table builder).events)) ∧
      (¬options.Reached builder → calls (options.validate table builder).events = [])) ∧
    ∀ table : Given Table,
      (∀ rs, (options.collectErrors table builder).result = .ok rs →
        options.SchemaCalls builder table.identity (calls (options.collectErrors table builder).events)) ∧
      ∀ e, (options.collectErrors table builder).result = .error e →
        calls (options.collectErrors table builder).events = [] := by
  refine ⟨?_, ?_, ?_, fun table => ⟨fun _ => schemaCalls_collectErrors, fun _ => calls_collectErrors_of_error⟩⟩
  · intro table index naming h
    unfold resolve
    rcases h with h | h
    · rw [h]
      rfl
    · rw [h]
      cases table.identity <;> rfl
  · intro table index t i naming base ht hi hn
    obtain ⟨p, hp⟩ := path_eq_ok_of_naming options i hn
    rw [calls_resolve ht hi]
    refine ⟨fun h => ?_, fun h => ?_⟩
    · have hschema := schemaCalls_schema options builder (.known t)
      refine ⟨_, hschema, ?_⟩
      rw [events_values ⟨_, hp⟩ h, events_path i hn, calls_append, calls_directoryCalls, calls_of_schemaCalls hschema]
    · rw [events_values_of_not_reached ⟨_, hp⟩ h]
      rfl
  · intro table
    rw [calls_validate]
    refine ⟨schemaCalls_values table.identity, fun h => ?_⟩
    rw [events_values_of_not_reached (path_eq_ok_of_unknown options _ _) h]
    rfl

end EntryPoints

/-- A builder that takes every text for a schema as it is. -/
def verbatim : Builder Text := ⟨.ok, fun _ _ => .ok ()⟩

/-- Where only a schema is given, the base directory is asked for, and the schema is built from its text, with the
blanks around it, before its columns are checked. -/
theorem calls_made_when_reached_blanksAround :
    calls (OptionMap.resolve [(OptionName.schema.text, " any ")] (.bare oneColumn) (.bare bareIndex)
        dataDirectories.naming verbatim).events =
      [.asked oneColumn, .built " any ", .checked oneColumn] := by
  have hreached : OptionMap.Reached [(OptionName.schema.text, " any ")] verbatim := by
    intro o ho
    cases o with
    | schema => exact absurd ho (by decide)
    | _ => rfl
  obtain ⟨es, hes, hcalls⟩ :=
    ((calls_made_when_reached [(OptionName.schema.text, " any ")] verbatim).2.1 (.bare oneColumn)
    (.bare bareIndex) oneColumn bareIndex dataDirectories.naming _ rfl rfl rfl).1 hreached
  rw [hcalls]
  cases hes with
  | leftOut h => cases h
  | blank h hblank =>
    cases h
    exact absurd hblank (by decide)
  | unbuilt h _ hbuild => cases hbuild
  | checked h =>
    cases h
    rfl

end OptionMap

end IndexOptions
