import IndexOptions.Proofs.Checks

/-!
# The three ways to look at options

`validate`, `collectErrors` and `resolve` run the same checks. What comes out of each is read off the list of errors of
the checks (`OptionMap.faults`):

- `validate_eq_ok_iff`, `validate_eq_error_iff`: nothing, or the first error;
- `collectErrors_eq_ok_iff`: all errors, as long as they are rejections;
- `result_resolve`, `resolve_eq_error_iff`: the values, or the first error. The bounds of a configuration add nothing
  to the checks (`checked_of_values`).

From this follow the three main statements: which errors leave, that a check without an index tells the outcome with
one, and that all rejections together agree with the first and with each option by itself.
-/

namespace IndexOptions

/-- The bounds of a configuration, as they are checked. -/
theorem Config.checked_eq_ok {σ : Type} {c : Config σ} (hf : c.refreshSeconds.isFinite)
    (hp : c.refreshSeconds.isPositive) (h₁ : 0 < c.ramBufferMb) (h₂ : 0 < c.maxMergeMb) (h₃ : 0 < c.maxCachedMb)
    (h₄ : 0 < c.indexingQueuesSize) : c.checked = .ok c := by
  have hnumber : Reading.positiveNumber (.real c.refreshSeconds) = .ok c.refreshSeconds := by
    simp [Reading.positiveNumber, Reading.number, bind, Except.bind, hf, hp]
  have hpositive : ∀ (field : Text) {i : Int}, 0 < i → Config.positive field i = .ok i := by
    intro field i hi
    refine Checked.under_eq_ok_iff.mpr ?_
    simp [Reading.positiveInteger, Reading.integer, bind, Except.bind, hi]
  unfold Config.checked
  rw [hnumber, hpositive _ h₁, hpositive _ h₂, hpositive _ h₃, hpositive _ h₄]
  rfl

namespace OptionMap

open Traced

variable {σ : Type} {options : OptionMap} {builder : Builder σ} {table : Given Table} {e : ResolveError}

/-! ## Outcomes -/

theorem result_validate (options : OptionMap) (table : Given Table) (builder : Builder σ) :
    (options.validate table builder).result =
      (runAll (OptionName.all.map (options.check table.identity .unknown noNaming builder))).result := by
  rw [← discard_values]
  rfl

theorem validate_eq_ok_iff :
    (options.validate table builder).result = .ok () ↔ options.faults table.identity builder = [] := by
  rw [result_validate, runAll_eq_ok_iff, failures_check (path_eq_ok_of_unknown options _ _)]

theorem validate_eq_error_iff :
    (options.validate table builder).result = .error e ↔
      (options.faults table.identity builder).head? = some e := by
  rw [result_validate, runAll_eq_error_iff, failures_check (path_eq_ok_of_unknown options _ _)]

theorem collectErrors_eq_ok_iff {rs : List Rejection} :
    (options.collectErrors table builder).result = .ok rs ↔
      options.faults table.identity builder = rs.map .rejected := by
  rw [← failures_attempts, ← collectFrom_eq_ok_iff]
  rfl

/-- A list of rejections is returned exactly if no check fails otherwise. -/
theorem collectErrors_returns_iff :
    (∃ rs, (options.collectErrors table builder).result = .ok rs) ↔
      ∀ e ∈ options.faults table.identity builder, ∃ r, e = .rejected r := by
  simp only [collectErrors_eq_ok_iff]
  constructor
  · rintro ⟨rs, h⟩ e he
    rw [h] at he
    obtain ⟨r, -, rfl⟩ := List.mem_map.mp he
    exact ⟨r, rfl⟩
  · intro h
    generalize options.faults table.identity builder = es at h
    induction es with
    | nil => exact ⟨[], rfl⟩
    | cons e es ih =>
      obtain ⟨r, rfl⟩ := h e (by simp)
      obtain ⟨rs, rfl⟩ := ih fun e he => h e (by simp [he])
      exact ⟨r :: rs, rfl⟩

/-- What ends a collection is an error of the checks that is no rejection. -/
theorem mem_faults_of_collectErrors (h : (options.collectErrors table builder).result = .error e) :
    e ∈ options.faults table.identity builder ∧ ∀ r, e ≠ .rejected r := by
  rw [← failures_attempts]
  exact mem_failures_of_collectFrom h

/-- The checks leave only values that a configuration admits. -/
theorem checked_of_values {table : Identity Table} {index : Identity Index} {naming : Naming} {c : Config σ}
    (h : (options.values table index naming builder).result = .ok c) : c.checked = .ok c := by
  obtain ⟨hr, h₁, h₂, h₃, -, h₄, -⟩ := values_eq_ok_iff.mp h
  obtain ⟨hf, hp⟩ := refreshSeconds_eq_ok hr
  exact Config.checked_eq_ok hf hp (pos_of_positiveInteger (by decide) h₁) (pos_of_positiveInteger (by decide) h₂)
    (pos_of_positiveInteger (by decide) h₃) (pos_of_positiveInteger (by decide) h₄)

/-- With both identities, resolving gives just the values of the options. -/
theorem result_resolve {index : Given Index} {t : Table} {i : Index} (ht : table.identity = .known t)
    (hi : index.identity = .known i) (naming : Naming) :
    (options.resolve table index naming builder).result =
      (options.values (.known t) (.known i) naming builder).result := by
  unfold resolve
  rw [ht, hi]
  cases h : (options.values (.known t) (.known i) naming builder).result with
  | error e =>
    refine bind_eq_error_iff.mpr (Or.inr ⟨(), rfl, ?_⟩)
    exact bind_eq_error_iff.mpr (Or.inl h)
  | ok c =>
    refine bind_eq_ok_iff.mpr ⟨(), rfl, bind_eq_ok_iff.mpr ⟨c, h, bind_eq_ok_iff.mpr ⟨c, ?_, rfl⟩⟩⟩
    rw [checked_of_values h]
    rfl

/-- Where the directory service answers, resolving fails as the checks do. -/
theorem resolve_eq_error_iff {index : Given Index} {t : Table} {i : Index} {naming : Naming} {base : Path}
    (ht : table.identity = .known t) (hi : index.identity = .known i) (hn : naming t = .ok base) :
    (options.resolve table index naming builder).result = .error e ↔
      (options.faults (.known t) builder).head? = some e := by
  obtain ⟨p, hp⟩ := path_eq_ok_of_naming options i hn
  rw [result_resolve ht hi, values_eq_error_iff ⟨_, hp⟩]

/-! ## Which errors leave -/

/-- An outcome is a value or a rejection. -/
def Settled {α : Type} (x : Except ResolveError α) : Prop := ∀ e, x = .error e → ∃ r, e = .rejected r

/-- Every overlong integer comes after an option that is rejected. -/
def Shielded (options : OptionMap) (table : Identity Table) (builder : Builder σ) : Prop :=
  ∀ o, options.Overlong o → ∃ p r, OptionName.Before p o ∧ options.fault? table builder p = some (.rejected r)

/-- The first value of a list is good exactly if every bad one comes after a good one. -/
theorem forall_head?_filterMap_iff {α β : Type} {f : α → Option β} {good : β → Prop} {l : List α} (hn : l.Nodup) :
    (∀ b, (l.filterMap f).head? = some b → good b) ↔
      ∀ a ∈ l, ∀ b, f a = some b → ¬good b → ∃ a' b', [a', a].Sublist l ∧ f a' = some b' ∧ good b' := by
  induction l with
  | nil => simp
  | cons x l ih =>
    obtain ⟨hx, hn⟩ := List.nodup_cons.mp hn
    cases hf : f x with
    | none =>
      rw [List.filterMap_cons_none hf, ih hn]
      constructor
      · intro h a ha b hb hbad
        rcases List.mem_cons.mp ha with rfl | ha
        · rw [hf] at hb
          cases hb
        · obtain ⟨a', b', hs, hb', hgood⟩ := h a ha b hb hbad
          exact ⟨a', b', hs.cons _, hb', hgood⟩
      · intro h a ha b hb hbad
        obtain ⟨a', b', hs, hb', hgood⟩ := h a (List.mem_cons_of_mem _ ha) b hb hbad
        cases hs with
        | cons _ hs => exact ⟨a', b', hs, hb', hgood⟩
        | cons_cons _ hs =>
          rw [hf] at hb'
          cases hb'
    | some c =>
      rw [List.filterMap_cons_some hf, List.head?_cons]
      constructor
      · intro h a ha b hb hbad
        rcases List.mem_cons.mp ha with rfl | ha
        · rw [hf] at hb
          exact absurd (h b hb) hbad
        · exact ⟨x, c, (List.singleton_sublist.mpr ha).cons_cons x, hf, h c rfl⟩
      · intro h b hb
        apply Classical.byContradiction
        intro hbad
        cases hb
        obtain ⟨a', b', hs, -, -⟩ := h x List.mem_cons_self c hf hbad
        cases hs with
        | cons _ hs => exact hx (hs.subset (by simp))
        | cons_cons _ hs => exact hx (List.singleton_sublist.mp hs)

/-- The first error is a rejection exactly if no overlong integer comes before all rejected options. -/
theorem head?_faults_rejected_iff {table : Identity Table} :
    (∀ e, (options.faults table builder).head? = some e → ∃ r, e = .rejected r) ↔ options.Shielded table builder := by
  rw [faults, forall_head?_filterMap_iff OptionName.nodup_all]
  constructor
  · intro h o ho
    obtain ⟨n, hf⟩ : ∃ n, options.fault? table builder o = some (.tooManyDigits n) := fault?_of_overlong ho
    obtain ⟨p, _, hs, hp, r, rfl⟩ := h o (OptionName.mem_all o) _ hf (by rintro ⟨r, hr⟩; cases hr)
    exact ⟨p, r, hs, hp⟩
  · intro h o _ e he hbad
    rcases fault?_eq_some he with ⟨reason, rfl⟩ | ⟨ho, -⟩
    · exact absurd ⟨_, rfl⟩ hbad
    · obtain ⟨p, r, hs, hp⟩ := h o ho
      exact ⟨p, _, hs, hp, r, rfl⟩

theorem settled_validate_iff :
    Settled (options.validate table builder).result ↔ options.Shielded table.identity builder := by
  simp only [Settled, validate_eq_error_iff, head?_faults_rejected_iff]

theorem settled_resolve_iff {index : Given Index} {t : Table} {i : Index} {naming : Naming} {base : Path}
    (ht : table.identity = .known t) (hi : index.identity = .known i) (hn : naming t = .ok base) :
    Settled (options.resolve table index naming builder).result ↔ options.Shielded (.known t) builder := by
  simp only [Settled, resolve_eq_error_iff ht hi hn, head?_faults_rejected_iff]

/-- What is not a rejection is the number of digits of an overlong integer. -/
theorem eq_tooManyDigits_of_mem_faults {table : Identity Table} (he : e ∈ options.faults table builder)
    (hr : ∀ r, e ≠ .rejected r) : ∃ n, e = .tooManyDigits n := by
  obtain ⟨o, -, hf⟩ := List.mem_filterMap.mp he
  rcases fault?_eq_some hf with ⟨reason, rfl⟩ | ⟨-, raw, -, rfl⟩
  · exact absurd rfl (hr _)
  · exact ⟨_, rfl⟩

/-- Collecting gives a list exactly if no integer is overlong. -/
theorem collectErrors_returns_iff_not_overlong :
    (∃ rs, (options.collectErrors table builder).result = .ok rs) ↔ ∀ o, ¬options.Overlong o := by
  rw [collectErrors_returns_iff]
  constructor
  · intro h o ho
    obtain ⟨n, hf⟩ : ∃ n, options.fault? table.identity builder o = some (.tooManyDigits n) := fault?_of_overlong ho
    obtain ⟨r, hr⟩ := h _ (List.mem_filterMap.mpr ⟨o, OptionName.mem_all o, hf⟩)
    cases hr
  · intro h e he
    obtain ⟨o, -, hf⟩ := List.mem_filterMap.mp he
    rcases fault?_eq_some hf with ⟨reason, rfl⟩ | ⟨ho, -⟩
    · exact ⟨_, rfl⟩
    · exact absurd ho (h o)

/-- **Which errors leave.** Collecting returns exactly if no integer is overlong; the other two ways give a value or a
rejection exactly if every overlong integer comes after a rejected option. What else leaves is the number of digits of
an overlong integer. -/
theorem settled_iff_overlong_shielded (options : OptionMap) (builder : Builder σ) :
    (∀ table : Given Table,
      ((∃ rs, (options.collectErrors table builder).result = .ok rs) ↔ ∀ o, ¬options.Overlong o) ∧
      ∀ e, (options.collectErrors table builder).result = .error e → ∃ n, e = .tooManyDigits n) ∧
    (∀ table : Given Table,
      (Settled (options.validate table builder).result ↔ options.Shielded table.identity builder) ∧
      ∀ e, (options.validate table builder).result = .error e →
        (∃ r, e = .rejected r) ∨ ∃ n, e = .tooManyDigits n) ∧
    ∀ (table : Given Table) (index : Given Index) (t : Table) (i : Index) (naming : Naming) (base : Path),
      table.identity = .known t → index.identity = .known i → naming t = .ok base →
      (Settled (options.resolve table index naming builder).result ↔ options.Shielded (.known t) builder) ∧
      ∀ e, (options.resolve table index naming builder).result = .error e →
        (∃ r, e = .rejected r) ∨ ∃ n, e = .tooManyDigits n := by
  have hfault : ∀ (table : Identity Table) (e : ResolveError), (options.faults table builder).head? = some e →
      (∃ r, e = .rejected r) ∨ ∃ n, e = .tooManyDigits n := by
    intro table e he
    by_cases hr : ∃ r, e = .rejected r
    · exact Or.inl hr
    · exact Or.inr (eq_tooManyDigits_of_mem_faults (List.mem_of_head? he) fun r h => hr ⟨r, h⟩)
  refine ⟨fun table => ⟨collectErrors_returns_iff_not_overlong, ?_⟩, fun table => ⟨settled_validate_iff, ?_⟩, ?_⟩
  · intro e he
    obtain ⟨hm, hr⟩ := mem_faults_of_collectErrors he
    exact eq_tooManyDigits_of_mem_faults hm hr
  · intro e he
    exact hfault _ e (validate_eq_error_iff.mp he)
  · intro table index t i naming base ht hi hn
    refine ⟨settled_resolve_iff ht hi hn, ?_⟩
    intro e he
    exact hfault _ e ((resolve_eq_error_iff ht hi hn).mp he)

/-- A table with one column. -/
def oneColumn : Table := ⟨"demo", "tweets", Uuid.ofNat 1, [("body", "text")]⟩

/-- An index without options of its own. -/
def bareIndex : Index := ⟨"tweets_index", []⟩

/-- A data directory that is the same in every working directory. -/
def dataDirectories : Directories := Directories.ofText (Path.parse "/srv") "/data"

/-- The builder of a service that has done nothing yet. -/
def schemaBuilder : Builder Schema := Schema.builder 990

/-- An option with one digit too many. -/
def oneDigitTooMany : OptionMap := [(OptionName.ramBufferMb.text, List.replicate (Document.maxDigits + 1) '1')]

/-- One digit too many is enough for an error that is no rejection, whichever way the option is looked at. -/
theorem not_settled_oneDigitTooMany :
    (¬∃ rs, (oneDigitTooMany.collectErrors .absent schemaBuilder).result = .ok rs) ∧
      ¬Settled (oneDigitTooMany.validate .absent schemaBuilder).result ∧
      ¬Settled (oneDigitTooMany.resolve (.bare oneColumn) (.bare bareIndex) dataDirectories.naming
        schemaBuilder).result := by
  have hover : oneDigitTooMany.Overlong .ramBufferMb :=
    ⟨rfl, _, rfl, Numeral.isOverlong_replicate_one (Nat.lt_succ_self _)⟩
  have hbare : ∀ table : Identity Table, ¬oneDigitTooMany.Shielded table schemaBuilder := by
    intro table h
    obtain ⟨p, r, hp, hr⟩ := h _ hover
    cases p with
    | refreshSeconds => cases hr
    | _ => exact absurd hp (by decide)
  refine ⟨?_, ?_, ?_⟩
  · rw [collectErrors_returns_iff_not_overlong]
    exact fun h => h _ hover
  · rw [settled_validate_iff]
    exact hbare _
  · rw [settled_resolve_iff rfl rfl rfl]
    exact hbare _

/-! ## With and without an index -/

/-- **A check without an index tells the outcome with one.** Resolving gives a configuration exactly if the check
passes, and otherwise both fail with the same error. The bounds of the configuration are met by all values that the
checks leave, and the directory is never a reason to fail. -/
theorem resolve_agrees_with_validate (options : OptionMap) {table : Given Table} {index : Given Index} {t : Table}
    {i : Index} {naming : Naming} {base : Path} (builder : Builder σ) (ht : table.identity = .known t)
    (hi : index.identity = .known i) (hn : naming t = .ok base) :
    ((∃ c, (options.resolve table index naming builder).result = .ok c) ↔
        (options.validate table builder).result = .ok ()) ∧
      (∀ e, (options.resolve table index naming builder).result = .error e ↔
        (options.validate table builder).result = .error e) ∧
      (∀ c, (options.values (.known t) (.known i) naming builder).result = .ok c → c.checked = .ok c) ∧
      (∃ p, (options.path (.known t) (.known i) naming).result = .ok (some p)) ∧
      ∃ p, (options.path (.known t) .unknown noNaming).result = .ok p := by
  have herror : ∀ e, (options.resolve table index naming builder).result = .error e ↔
      (options.validate table builder).result = .error e := by
    intro e
    rw [resolve_eq_error_iff ht hi hn, validate_eq_error_iff, ht]
  refine ⟨?_, herror, fun c => checked_of_values, path_eq_ok_of_naming options i hn,
    path_eq_ok_of_unknown options _ _⟩
  cases hv : (options.validate table builder).result with
  | error e => simp [(herror e).mpr hv]
  | ok _ =>
    cases hr : (options.resolve table index naming builder).result with
    | error e =>
      have := (herror e).mp hr
      rw [hv] at this
      cases this
    | ok c => simp

/-- The two agree on a number that is not positive. -/
theorem resolve_agrees_with_validate_zero :
    ((∃ c, (OptionMap.resolve [(OptionName.maxMergeMb.text, "0")] (.bare oneColumn) (.known bareIndex)
          dataDirectories.naming schemaBuilder).result = .ok c) ↔
        (OptionMap.validate [(OptionName.maxMergeMb.text, "0")] (.bare oneColumn) schemaBuilder).result = .ok ()) ∧
      (OptionMap.resolve [(OptionName.maxMergeMb.text, "0")] (.bare oneColumn) (.known bareIndex)
        dataDirectories.naming schemaBuilder).result =
          .error (.rejected ⟨.maxMergeMb, .notPositive⟩) := by
  have h := @resolve_agrees_with_validate _ [(OptionName.maxMergeMb.text, "0")] (.bare oneColumn) (.known bareIndex)
    oneColumn bareIndex dataDirectories.naming _ schemaBuilder rfl rfl rfl
  exact ⟨h.1, (h.2.1 _).mpr rfl⟩

/-! ## All rejections -/

/-- A rejection among the errors of the checks is that of the option it names. -/
theorem option_of_fault? {table : Identity Table} {o : OptionName} {r : Rejection}
    (h : options.fault? table builder o = some (.rejected r)) : r.option = o := by
  rcases fault?_eq_some h with ⟨reason, hr⟩ | ⟨-, raw, -, hr⟩
  · cases hr
    rfl
  · cases hr

theorem rejected_mem_faults_iff {table : Identity Table} {r : Rejection} :
    .rejected r ∈ options.faults table builder ↔ options.fault? table builder r.option = some (.rejected r) := by
  constructor
  · intro h
    obtain ⟨o, -, hf⟩ := List.mem_filterMap.mp h
    rw [option_of_fault? hf]
    exact hf
  · intro h
    exact List.mem_filterMap.mpr ⟨_, OptionName.mem_all _, h⟩

/-- Rejections that are gathered along a list name the options of the list that fail, in its order. -/
theorem map_option_of_filterMap {table : Identity Table} {os : List OptionName} {rs : List Rejection}
    (h : os.filterMap (options.fault? table builder) = rs.map .rejected) :
    rs.map Rejection.option = os.filter fun o => (options.fault? table builder o).isSome := by
  induction os generalizing rs with
  | nil => simp_all
  | cons o os ih =>
    cases hf : options.fault? table builder o with
    | none =>
      rw [List.filterMap_cons_none hf] at h
      rw [ih h, List.filter_cons_of_neg (by simp [hf])]
    | some e =>
      rw [List.filterMap_cons_some hf] at h
      cases rs with
      | nil => cases h
      | cons r rs =>
        rw [List.map_cons, List.cons.injEq] at h
        obtain ⟨rfl, h⟩ := h
        rw [List.map_cons, ih h, List.filter_cons_of_pos (by simp [hf]), option_of_fault? hf]

/-- The data centers and the directory never fail. -/
theorem faults_eq_filterMap (options : OptionMap) (table : Identity Table) (builder : Builder σ) :
    options.faults table builder =
      [.refreshSeconds, .ramBufferMb, .maxMergeMb, .maxCachedMb, .indexingThreads, .indexingQueuesSize,
        .schema].filterMap (options.fault? table builder) := by
  have hpath : options.fault? table builder .directoryPath = none := by
    obtain ⟨p, hp⟩ := path_eq_ok_of_unknown options table noNaming
    rw [fault?, check, failure?_discard]
    exact failure?_eq_none_iff.mpr ⟨p, hp⟩
  have hcenters : options.fault? table builder .excludedDataCenters = none := rfl
  simp only [faults, OptionName.all, List.filterMap_cons, hpath, hcenters]

/-- **All rejections agree with the first and with each option.** The check passes exactly if there is no rejection,
and otherwise it fails with the first; no option is named twice, they are named in the order of the checks, and an
option is named, with its own error, exactly if its check by itself fails. -/
theorem collectErrors_agrees_with_validate {rs : List Rejection}
    (h : (options.collectErrors table builder).result = .ok rs) :
    ((options.validate table builder).result = .ok () ↔ rs = []) ∧
      (∀ r, rs.head? = some r → (options.validate table builder).result = .error (.rejected r)) ∧
      (rs.map Rejection.option).Nodup ∧
      (rs.map Rejection.option).Sublist [.refreshSeconds, .ramBufferMb, .maxMergeMb, .maxCachedMb, .indexingThreads,
        .indexingQueuesSize, .schema] ∧
      ∀ o e, (options.check table.identity .unknown noNaming builder o).result = .error e ↔
        ∃ r ∈ rs, r.option = o ∧ e = .rejected r := by
  rw [collectErrors_eq_ok_iff] at h
  have hsub : (rs.map Rejection.option).Sublist [.refreshSeconds, .ramBufferMb, .maxMergeMb, .maxCachedMb,
      .indexingThreads, .indexingQueuesSize, .schema] := by
    rw [map_option_of_filterMap (faults_eq_filterMap options table.identity builder ▸ h)]
    exact List.filter_sublist
  refine ⟨?_, ?_, hsub.nodup (by decide), hsub, ?_⟩
  · rw [validate_eq_ok_iff, h, List.map_eq_nil_iff]
  · intro r hr
    rw [validate_eq_error_iff, h, List.head?_map, hr]
    rfl
  · intro o e
    rw [← failure?_eq_some_iff]
    show options.fault? table.identity builder o = some e ↔ _
    constructor
    · intro hf
      have hm : e ∈ options.faults table.identity builder := List.mem_filterMap.mpr ⟨o, OptionName.mem_all o, hf⟩
      rw [h] at hm
      obtain ⟨r, hr, rfl⟩ := List.mem_map.mp hm
      exact ⟨r, hr, option_of_fault? hf, rfl⟩
    · rintro ⟨r, hr, rfl, rfl⟩
      apply rejected_mem_faults_iff.mp
      rw [h]
      exact List.mem_map.mpr ⟨r, hr, rfl⟩

/-- Three options that are rejected for three reasons. -/
def threeRejected : OptionMap :=
  [(OptionName.maxMergeMb.text, "0"), (OptionName.ramBufferMb.text, "many"), (OptionName.directoryPath.text, "/i")]

/-- The first of the rejections is the one that the check stops at. -/
theorem collectErrors_agrees_with_validate_threeRejected :
    (threeRejected.collectErrors .unknown schemaBuilder).result =
        .ok [⟨.ramBufferMb, .notPositiveInteger⟩, ⟨.maxMergeMb, .notPositive⟩, ⟨.schema, .required⟩] ∧
      (threeRejected.validate .unknown schemaBuilder).result =
        .error (.rejected ⟨.ramBufferMb, .notPositiveInteger⟩) := by
  have h : (threeRejected.collectErrors .unknown schemaBuilder).result =
      .ok [⟨.ramBufferMb, .notPositiveInteger⟩, ⟨.maxMergeMb, .notPositive⟩, ⟨.schema, .required⟩] := rfl
  exact ⟨h, (collectErrors_agrees_with_validate h).2.1 _ rfl⟩

end OptionMap

end IndexOptions
