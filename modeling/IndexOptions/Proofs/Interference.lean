import IndexOptions.Proofs.ServiceCaches

/-!
# What the outcome does not depend on

Two maps of options agree if each of the nine options is left out of both or has the same text in both
(`OptionMap.Agree`); their order and all other words are free. Maps that agree run the same checks (`values_congr`,
`attempts_congr`), as a whole and with the same events, as long as the directory is the same. And the directory is

- the same for indexes of the same name (`path_of_indexName?`), whatever options are stored with them;
- none without an index (`path_of_unknown`), and the one that is given as an option otherwise (`path_of_given`), with
  any directory service.

`outcome_of_agree` puts these together for the three ways to look at options, and for all states of the service.
-/

namespace IndexOptions

/-- The name of an index, if the index is known. -/
def Identity.indexName? : Identity Index → Option Text
  | .unknown => none
  | .known i => some i.name

namespace OptionMap

open Traced

variable {σ : Type} {options options' : OptionMap} {builder : Builder σ} {table : Identity Table}
  {index index' : Identity Index} {naming naming' : Naming} {o : OptionName} {raw : Text}

/-! ## Agreement -/

/-- Each of the nine options is left out of both maps or has the same text in both. -/
def Agree (options options' : OptionMap) : Prop := ∀ o, options.raw o = options'.raw o

/-- Words that stand for no option may be left out. -/
theorem agree_filter (options : OptionMap) : Agree (options.filter fun e => OptionName.isRecognized e.1) options := by
  intro o
  unfold raw
  induction options with
  | nil => rfl
  | cons e options ih =>
    obtain ⟨key, value⟩ := e
    rw [List.filter_cons]
    split
    · rw [Entries.get?_cons, Entries.get?_cons, ih]
    · next hkey =>
      have hne : o.text ≠ key := by
        rintro rfl
        exact hkey (by rw [OptionName.isRecognized, OptionName.ofText?_text]; rfl)
      rw [Entries.get?_cons, if_neg hne, ih]

/-- The order of distinct words does not matter. -/
theorem agree_of_perm (h : options.Perm options') (hn : (Entries.keys options).Nodup) : options.Agree options' :=
  fun o => Entries.get?_of_perm h hn o.text

/-! ## Directories -/

theorem path_of_indexName? (h : options.Agree options') (hindex : index.indexName? = index'.indexName?) :
    options.path table index naming = options'.path table index' naming := by
  unfold path
  rw [h .directoryPath]
  cases index with
  | unknown =>
    cases index' with
    | unknown => rfl
    | known j => cases hindex
  | known i =>
    cases index' with
    | unknown => cases hindex
    | known j =>
      have hname : i.name = j.name := Option.some.inj hindex
      cases table with
      | unknown => rfl
      | known t =>
        dsimp only
        rw [hname]

/-- Without an index the directory service does not matter. -/
theorem path_unknown_of_raw (h : options.raw .directoryPath = options'.raw .directoryPath) :
    options.path table .unknown naming = options'.path table .unknown naming' := by
  unfold path
  rw [h]
  cases table <;> rfl

theorem path_of_unknown (h : options.Agree options') :
    options.path table .unknown naming = options'.path table .unknown naming' :=
  path_unknown_of_raw (h .directoryPath)

/-- Where the directory is given, neither index nor directory service matter. -/
theorem path_of_given (h : options.Agree options') (hraw : options.raw .directoryPath = some raw) :
    options.path table index naming = options'.path table index' naming' := by
  unfold path
  rw [← h .directoryPath, hraw]

/-! ## Checks -/

theorem positiveInteger_congr (h : options.raw o = options'.raw o) (default : Int) :
    options.positiveInteger o default = options'.positiveInteger o default := by
  rw [positiveInteger, positiveInteger, h]

theorem indexingThreads_congr (h : options.raw .indexingThreads = options'.raw .indexingThreads) :
    options.indexingThreads = options'.indexingThreads := by
  rw [indexingThreads, indexingThreads, h]

theorem excludedDataCenters_congr (h : options.raw .excludedDataCenters = options'.raw .excludedDataCenters) :
    options.excludedDataCenters = options'.excludedDataCenters := by
  rw [excludedDataCenters, excludedDataCenters, h]

/-- A check reads no option but its own; that of the directory also takes it from elsewhere. -/
theorem check_of_raw (h : options.raw o = options'.raw o)
    (hpath : o = .directoryPath →
      options.path table index naming = options'.path table index' naming') :
    options.check table index naming builder o = options'.check table index' naming' builder o := by
  cases o with
  | refreshSeconds => simp only [check, refreshSeconds_of_raw h]
  | ramBufferMb => simp only [check, ramBufferMb, positiveInteger_congr h]
  | maxMergeMb => simp only [check, maxMergeMb, positiveInteger_congr h]
  | maxCachedMb => simp only [check, maxCachedMb, positiveInteger_congr h]
  | indexingThreads => simp only [check, indexingThreads_congr h]
  | indexingQueuesSize => simp only [check, indexingQueuesSize, positiveInteger_congr h]
  | excludedDataCenters => rfl
  | directoryPath => simp only [check, hpath rfl]
  | schema => simp only [check, schema_of_raw h]

theorem attempts_congr (h : options.Agree options')
    (hpath : options.path table index naming = options'.path table index' naming') :
    options.attempts table index naming builder = options'.attempts table index' naming' builder := by
  have hcheck : ∀ o, options.check table index naming builder o = options'.check table index' naming' builder o :=
    fun o => check_of_raw (h o) fun _ => hpath
  exact congrArg (fun check => [OptionName.refreshSeconds, .ramBufferMb, .maxMergeMb, .maxCachedMb, .indexingThreads,
    .indexingQueuesSize, .directoryPath, .schema].map check) (funext hcheck)

theorem values_congr (h : options.Agree options')
    (hpath : options.path table index naming = options'.path table index' naming') :
    options.values table index naming builder = options'.values table index' naming' builder := by
  simp only [values, refreshSeconds_of_raw (h .refreshSeconds), ramBufferMb, maxMergeMb, maxCachedMb,
    indexingQueuesSize, positiveInteger_congr (h _), indexingThreads_congr (h _), excludedDataCenters_congr (h _),
    hpath, schema_of_raw (h .schema)]

/-! ## Ways to look at options -/

theorem result_resolve_of_unknown {table : Given Table} {index : Given Index}
    (h : table.identity = .unknown ∨ index.identity = .unknown) (naming : Naming) (builder : Builder σ) :
    (options.resolve table index naming builder).result = .error .unknownIdentity := by
  unfold resolve
  rcases h with h | h
  · rw [h]
    rfl
  · rw [h]
    cases table.identity <;> rfl

/-- Resolving comes out the same for maps that agree, if both are asked for the same table, one index is known if the
other is, and the directory is the same. -/
theorem result_resolve_congr {table table' : Given Table} {index index' : Given Index} (h : options.Agree options')
    (htable : table.identity = table'.identity)
    (hindex : index.identity = .unknown ↔ index'.identity = .unknown)
    (hpath : options.path table.identity index.identity naming = options'.path table.identity index'.identity naming') :
    (options.resolve table index naming builder).result = (options'.resolve table' index' naming' builder).result := by
  cases ht : table.identity with
  | unknown =>
    rw [result_resolve_of_unknown (Or.inl ht), result_resolve_of_unknown (Or.inl (htable ▸ ht))]
  | known t =>
    cases hi : index.identity with
    | unknown => rw [result_resolve_of_unknown (Or.inr hi), result_resolve_of_unknown (Or.inr (hindex.mp hi))]
    | known i =>
      cases hj : index'.identity with
      | unknown =>
        rw [hindex.mpr hj] at hi
        cases hi
      | known j =>
        rw [ht, hi, hj] at hpath
        rw [result_resolve ht hi, result_resolve (htable ▸ ht) hj, values_congr h hpath]

theorem unknown_iff_of_indexName? (h : index.indexName? = index'.indexName?) :
    index = .unknown ↔ index' = .unknown := by
  cases index with
  | unknown => cases index' <;> simp_all [Identity.indexName?]
  | known i => cases index' <;> simp_all [Identity.indexName?]

/-- The log does not change what a computation comes to. -/
theorem result_logOptions_bind {α : Type} (options : OptionMap) (message : Text) (f : Unit → Traced α) :
    (options.logOptions message >>= f).result = (f ()).result := rfl

theorem result_validate_congr {table table' : Given Table} (h : options.Agree options')
    (htable : table.identity = table'.identity) :
    (options.validate table builder).result = (options'.validate table' builder).result := by
  rw [validate, validate, result_logOptions_bind, result_logOptions_bind, ← htable,
    values_congr h (path_of_unknown h)]

theorem result_collectErrors_congr {table table' : Given Table} (h : options.Agree options')
    (htable : table.identity = table'.identity) :
    (options.collectErrors table builder).result = (options'.collectErrors table' builder).result := by
  rw [collectErrors, collectErrors, result_logOptions_bind, result_logOptions_bind, ← htable,
    attempts_congr h (path_of_unknown h)]

/-! ## The directory service -/

theorem unasked_path_of_unknown (options : OptionMap) (table : Identity Table) (naming : Naming) :
    (options.path table .unknown naming).Unasked :=
  unasked_iff_each.mpr (each_path (fun t i _ _ hindex => by cases hindex) naming)

theorem unasked_validate (options : OptionMap) (table : Given Table) (builder : Builder σ) :
    (options.validate table builder).Unasked :=
  unasked_bind (unasked_logOptions _ _) fun _ => unasked_values (unasked_path_of_unknown _ _ _) builder

theorem unasked_collected (options : OptionMap) (table : Identity Table) (naming : Naming) (builder : Builder σ) :
    (collectFrom (options.attempts table .unknown naming builder)).Unasked := by
  refine unasked_iff_each.mpr (each_collectFrom (each_attempts ?_ ?_))
  · exact unasked_iff_each.mp (unasked_path_of_unknown _ _ _)
  · exact unasked_iff_each.mp (unasked_schema _ _ _)

theorem unasked_collectErrors (options : OptionMap) (table : Given Table) (builder : Builder σ) :
    (options.collectErrors table builder).Unasked :=
  unasked_bind (unasked_logOptions _ _) fun _ => unasked_collected _ _ _ _

end OptionMap

/-! ## States of the service -/

/-- A computation that does not ask for directories leaves the service as it was. -/
theorem Service.service_run_of_unasked {α : Type} {x : Traced α} (h : x.Unasked) (s : Service) (source : Source) :
    (s.run source x).service = s := by
  cases source with
  | shared => rw [service_run_shared, Traced.asks_eq_false_iff.mpr h, if_neg Bool.false_ne_true]
  | own naming =>
    have hreplay : ∀ es : List Event, (replay (.own naming) es s).2 = s := by
      intro es
      induction es with
      | nil => rfl
      | cons e es ih => cases e <;> exact ih
    exact hreplay x.events

namespace OptionMap

variable {σ : Type} {options options' : OptionMap}

/-- **The outcome depends on nothing but the nine options, the table and the name of the index**, and on the directory
service where the directory is not given. Of two maps of options that agree:

- resolving comes out the same, however the table and the index are handed in and whatever options are stored with the
  index, for the same directory service;
- where the directory is given, it comes out the same for all names of the index, all directory services and all states
  of the service, which does not make or ask for any directories;
- so does checking without an index, in either way, whether or not the directory is given. Putting another directory
  service into the checks changes nothing. -/
theorem outcome_of_agree (h : options.Agree options') (builder : Builder σ) :
    (∀ (table table' : Given Table) (index index' : Given Index) (naming : Naming),
      table.identity = table'.identity → index.identity.indexName? = index'.identity.indexName? →
      (options.resolve table index naming builder).result = (options'.resolve table' index' naming builder).result) ∧
    (∀ (raw : Text) (s s' : Service) (source source' : Service.Source) (table table' : Given Table)
      (index index' : Given Index), options.raw .directoryPath = some raw → table.identity = table'.identity →
      (index.identity = .unknown ↔ index'.identity = .unknown) →
      (s.resolve source builder options table index).result =
          (s'.resolve source' builder options' table' index').result ∧
        (s.resolve source builder options table index).service = s) ∧
    (∀ (s s' : Service) (source source' : Service.Source) (table table' : Given Table),
      table.identity = table'.identity →
      ((s.run source (options.validate table builder)).result =
          (s'.run source' (options'.validate table' builder)).result ∧
        (s.run source (options.validate table builder)).service = s) ∧
      (s.run source (options.collectErrors table builder)).result =
          (s'.run source' (options'.collectErrors table' builder)).result ∧
        (s.run source (options.collectErrors table builder)).service = s) ∧
    ∀ (table : Identity Table) (naming naming' : Naming),
      options.values table .unknown naming builder = options'.values table .unknown naming' builder ∧
        options.attempts table .unknown naming builder = options'.attempts table .unknown naming' builder := by
  refine ⟨?_, ?_, ?_, ?_⟩
  · intro table table' index index' naming htable hindex
    exact result_resolve_congr h htable (unknown_iff_of_indexName? hindex) (path_of_indexName? h hindex)
  · intro raw s s' source source' table table' index index' hraw htable hindex
    refine ⟨result_resolve_congr h htable hindex (path_of_given h hraw), ?_⟩
    exact Service.service_run_of_unasked (unasked_resolve hraw _ _ _ _) s source
  · intro s s' source source' table table' htable
    refine ⟨⟨result_validate_congr h htable, ?_⟩, result_collectErrors_congr h htable, ?_⟩
    · exact Service.service_run_of_unasked (unasked_validate _ _ _) s source
    · exact Service.service_run_of_unasked (unasked_collectErrors _ _ _) s source
  · intro table naming naming'
    exact ⟨values_congr h (path_of_unknown h), attempts_congr h (path_of_unknown h)⟩

/-- Options with a directory and a word that stands for none. -/
def givenDirectory : OptionMap :=
  [("colour", "red"), (OptionName.directoryPath.text, "/indexes/one"),
    (OptionName.schema.text, "\x7b\"fields\": \x7b\"body\": \x7b\"type\": \"text\"\x7d\x7d\x7d")]

/-- The same options in another order and without that word. -/
def reorderedDirectory : OptionMap := (givenDirectory.filter fun e => OptionName.isRecognized e.1).reverse

theorem agree_reorderedDirectory : givenDirectory.Agree reorderedDirectory := by
  have hfilter := agree_filter givenDirectory
  have hreverse := agree_of_perm (List.reverse_perm (givenDirectory.filter fun e => OptionName.isRecognized e.1)).symm
    (by decide)
  exact fun o => (hfilter o).symm.trans (hreverse o)

/-- They resolve to the same configuration for an index of another name with options of its own, where one service is
asked for shared directories and the other brings a directory service that always fails. -/
theorem outcome_of_agree_reorderedDirectory :
    ∃ c, (Service.initial.resolve .shared schemaBuilder givenDirectory (.bare oneColumn) (.bare bareIndex)).result =
        .ok c ∧
      ((Service.initial.setVariable "PORT" (some "none")).resolve (.own noNaming) schemaBuilder reorderedDirectory
        (.known oneColumn) (.known ⟨"another", [(OptionName.ramBufferMb.text, "0")]⟩)).result = .ok c := by
  obtain ⟨c, hc⟩ : ∃ c, (Service.initial.resolve .shared schemaBuilder givenDirectory (.bare oneColumn)
      (.bare bareIndex)).result = .ok c :=
    exists_of_isOk (by decide +kernel)
  obtain ⟨hsame, -⟩ := (outcome_of_agree agree_reorderedDirectory schemaBuilder).2.1 _ Service.initial
    (Service.initial.setVariable "PORT" (some "none")) .shared (.own noNaming) (.bare oneColumn) (.known oneColumn)
    (.bare bareIndex) (.known ⟨"another", [(OptionName.ramBufferMb.text, "0")]⟩) rfl rfl (by simp [Given.identity])
  exact ⟨c, hc, hsame ▸ hc⟩

end OptionMap

end IndexOptions
