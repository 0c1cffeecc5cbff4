import IndexOptions.Proofs.EntryPoints
import IndexOptions.Proofs.Events
import IndexOptions.Proofs.Numerals
import IndexOptions.Proofs.Paths
import IndexOptions.Proofs.Trimming

/-!
# Canonical options

A configuration describes its own values (`Config.describe`), and a description can be written as options again:
integers in decimal, data centers with commas between them, the directory by the text of its path. The number of seconds
and the schema stay as they were written (`OptionMap.recodedText`).

Such options resolve to the same configuration, and the directory service is not needed any more
(`OptionMap.resolve_recoded`). Each part is a round trip of its own:

- `positiveInteger_of_raw`, `indexingThreads_of_raw`: an integer that was read is one of 32 bits, and is read again;
- `dataCenters_join`: trimming twice is trimming once, and pieces without commas are found again;
- `path_of_raw`: a path in normal form is read from its text.
-/

namespace IndexOptions

namespace Traced

variable {α β : Type}

/-! ## The directory service -/

/-- The directory service is not asked. -/
def Unasked (x : Traced α) : Prop := ∀ t, Event.asked t ∉ x.events

/-- Not to ask the directory service is a promise about all events. -/
theorem unasked_iff_each {x : Traced α} : x.Unasked ↔ x.Each fun e => ∀ t, e ≠ .asked t :=
  ⟨fun h _ he t hasked => h t (hasked ▸ he), fun h t ht => h _ ht t rfl⟩

theorem unasked_of (r : Except ResolveError α) : (Traced.of r).Unasked := unasked_iff_each.mpr (each_of r)

theorem unasked_emit {e : Event} (h : ∀ t, e ≠ .asked t) : (emit e).Unasked := unasked_iff_each.mpr (each_emit h)

theorem unasked_bind {x : Traced α} {f : α → Traced β} (hx : x.Unasked) (hf : ∀ a, (f a).Unasked) :
    (x >>= f).Unasked :=
  unasked_iff_each.mpr (each_bind (unasked_iff_each.mp hx) fun a => unasked_iff_each.mp (hf a))

end Traced

/-- The directories under a data directory are in normal form if the working directory is. -/
theorem Directories.isNormal_baseFor {working : Path} (hworking : working.IsNormal) (data : Text) (t : Table) :
    ((ofText working data).baseFor t).IsNormal :=
  Path.isNormal_join (Path.isNormal_join (Path.isNormal_join hworking (Path.isNormal_parse _)) (Path.isNormal_parse _))
    (Path.isNormal_parse _)

namespace OptionMap

open Traced

variable {σ : Type} {options options' : OptionMap} {builder : Builder σ} {o : OptionName} {raw : Text}

/-- Where the directory is given as an option, the directory service is not asked. -/
theorem unasked_path (h : options.raw .directoryPath = some raw) (table : Identity Table) (index : Identity Index)
    (naming : Naming) : (options.path table index naming).Unasked := by
  refine unasked_iff_each.mpr (each_path (fun t i hraw => ?_) naming)
  rw [h] at hraw
  cases hraw

theorem unasked_schema (options : OptionMap) (table : Identity Table) (builder : Builder σ) :
    (options.schema table builder).Unasked :=
  unasked_iff_each.mpr (each_schema (fun raw t => by simp) (fun t t' => by simp) _ _ _)

theorem unasked_logOptions (options : OptionMap) (message : Text) : (options.logOptions message).Unasked :=
  unasked_iff_each.mpr (each_logOptions (fun key value t => by simp) _)

/-- Of all values only the directory may need the directory service. -/
theorem unasked_values {table : Identity Table} {index : Identity Index} {naming : Naming}
    (h : (options.path table index naming).Unasked) (builder : Builder σ) :
    (options.values table index naming builder).Unasked :=
  unasked_iff_each.mpr (each_values (unasked_iff_each.mp h) (unasked_iff_each.mp (unasked_schema _ _ _)))

/-- So a resolution with a given directory does not ask it at all. -/
theorem unasked_resolve (h : options.raw .directoryPath = some raw) (table : Given Table) (index : Given Index)
    (naming : Naming) (builder : Builder σ) : (options.resolve table index naming builder).Unasked := by
  unfold resolve
  split
  · refine unasked_bind (unasked_logOptions _ _) fun _ =>
      unasked_bind (unasked_values (unasked_path h _ _ _) builder) fun _ => ?_
    exact unasked_bind (unasked_of _) fun _ => unasked_bind (unasked_emit fun t => by simp) fun _ => unasked_of _
  · exact unasked_of _

/-! ## Integers -/

/-- An integer that is read from an option has 32 bits. -/
theorem isWord_of_integer {otherwise : Reason} {i : Int} (h : integer o otherwise raw = .ok i) : Numeral.isWord i := by
  unfold integer at h
  split at h
  · next j hj =>
    cases h
    unfold Numeral.word? at hj
    cases hi : Numeral.integer? raw with
    | error n =>
      rw [hi] at hj
      cases hj
    | ok k =>
      rw [hi] at hj
      exact (Option.filter_eq_some_iff.mp (Except.ok.inj hj)).2
  · cases h
  · cases h

/-- It is read again from its decimal text. -/
theorem integer_ofInt {otherwise : Reason} {i : Int} (h : Numeral.isWord i) :
    integer o otherwise (Text.ofInt i) = .ok i := by
  rw [integer, Numeral.word?_ofInt h]

/-- So has the value of an option that has to be positive, be it given or the default. -/
theorem isWord_of_positiveInteger {default i : Int} (hd : Numeral.isWord default)
    (h : options.positiveInteger o default = .ok i) : Numeral.isWord i := by
  unfold positiveInteger at h
  cases hr : options.raw o with
  | none =>
    rw [hr] at h
    cases h
    exact hd
  | some raw =>
    rw [hr] at h
    cases hi : integer o .notPositiveInteger raw with
    | error e =>
      simp only [hi, bind, Except.bind] at h
      cases h
    | ok j =>
      simp only [hi, bind, Except.bind] at h
      split at h
      · cases h
        exact isWord_of_integer hi
      · cases h

theorem isWord_of_indexingThreads {i : Int} (h : options.indexingThreads = .ok i) : Numeral.isWord i := by
  unfold indexingThreads at h
  split at h
  · cases h
    decide
  · exact isWord_of_integer h

/-- A positive integer that was read before is read from its decimal text. -/
theorem positiveInteger_of_raw {default i : Int} (hword : Numeral.isWord default) (hpos : 0 < default)
    (h : options.positiveInteger o default = .ok i) (hraw : options'.raw o = some (Text.ofInt i)) :
    options'.positiveInteger o default = .ok i := by
  have hi : 0 < i := pos_of_positiveInteger hpos h
  simp only [positiveInteger, hraw, integer_ofInt (isWord_of_positiveInteger hword h), bind, Except.bind, if_pos hi]

theorem indexingThreads_of_raw {i : Int} (h : options.indexingThreads = .ok i)
    (hraw : options'.raw .indexingThreads = some (Text.ofInt i)) : options'.indexingThreads = .ok i := by
  rw [indexingThreads, hraw]
  exact integer_ofInt (isWord_of_indexingThreads h)

/-! ## Data centers -/

/-- Names of data centers have no blanks at their outer ends, so with commas between them they are read again. -/
theorem dataCenters_join (raw : Text) : dataCenters (Text.join "," (dataCenters raw)) = dataCenters raw := by
  have hjoin : Text.join "," (dataCenters raw) = raw.trim := Text.join_splitOn _ _
  rw [hjoin, dataCenters, Text.trim_trim]
  rfl

theorem dataCenters_ne_nil (raw : Text) : dataCenters raw ≠ [] := Text.splitOn_ne_nil _ _

/-- The data centers with commas between them are the same data centers; none are left out. -/
theorem excludedDataCenters_of_raw
    (h : options'.raw .excludedDataCenters =
      if options.excludedDataCenters = [] then none else some (Text.join "," options.excludedDataCenters)) :
    options'.excludedDataCenters = options.excludedDataCenters := by
  rw [excludedDataCenters, h]
  cases hraw : options.raw .excludedDataCenters with
  | none =>
    have hcenters : options.excludedDataCenters = [] := by
      rw [excludedDataCenters, hraw]
      rfl
    rw [hcenters]
    rfl
  | some raw =>
    have hcenters : options.excludedDataCenters = dataCenters raw := by
      rw [excludedDataCenters, hraw]
    rw [hcenters, if_neg (dataCenters_ne_nil raw)]
    exact dataCenters_join raw

/-! ## Directory and schema -/

/-- The directory of an index that is known is in normal form, if the directory service answers with such paths. -/
theorem isNormal_of_path {t : Table} {i : Index} {naming : Naming} {p : Option Path}
    (hn : ∀ base, naming t = .ok base → base.IsNormal)
    (h : (options.path (.known t) (.known i) naming).result = .ok p) : ∃ q, p = some q ∧ q.IsNormal := by
  unfold path at h
  split at h
  · cases h
    exact ⟨_, rfl, Path.isNormal_parse _⟩
  · obtain ⟨_, -, h⟩ := bind_eq_ok_iff.mp h
    obtain ⟨base, hbase, h⟩ := bind_eq_ok_iff.mp h
    cases h
    exact ⟨_, rfl,
      Path.isNormal_join (Path.isNormal_join (hn base hbase) (Path.isNormal_parse _)) (Path.isNormal_parse _)⟩

/-- A path in normal form is read again from its text. -/
theorem path_of_raw {p : Path} (hp : p.IsNormal) (h : options.raw .directoryPath = some p.text) (table : Identity Table)
    (index : Identity Index) (naming : Naming) : (options.path table index naming).result = .ok (some p) := by
  unfold path
  rw [h]
  show Except.ok (some (Path.parse p.text)) = _
  rw [Path.parse_text hp]

theorem refreshSeconds_of_raw (h : options'.raw .refreshSeconds = options.raw .refreshSeconds) :
    options'.refreshSeconds = options.refreshSeconds := by
  rw [refreshSeconds, refreshSeconds, h]

theorem schema_of_raw (h : options'.raw .schema = options.raw .schema) (table : Identity Table) (builder : Builder σ) :
    options'.schema table builder = options.schema table builder := by
  rw [schema, schema, h]

/-! ## Options from a description -/

/-- The text of an option for a described value; an empty list has none. -/
def describedText? : Document → Option Text
  | .integer i => some (Text.ofInt i)
  | .text t => some t
  | .array [] => none
  | .array items =>
    some (Text.join "," (items.filterMap fun
      | .text t => some t
      | _ => none))
  | _ => none

/-- The text of an option for a description of a configuration; seconds and schema keep the text they had. -/
def recodedText (options : OptionMap) (described : Entries Document) : OptionName → Option Text
  | .refreshSeconds => options.raw .refreshSeconds
  | .schema => options.raw .schema
  | .directoryPath => (described.get? "path").bind describedText?
  | o => (described.get? o.text).bind describedText?

/-- The options for a description of a configuration, in the order of the checks. -/
def recoded (options : OptionMap) (described : Entries Document) : OptionMap :=
  OptionName.all.filterMap fun o => (options.recodedText described o).map fun raw => (o.text, raw)

/-- No data centers are described by leaving the option out. -/
theorem describedText?_texts (ts : List Text) :
    describedText? (Document.texts ts) = if ts = [] then none else some (Text.join "," ts) := by
  cases ts with
  | nil => rfl
  | cons t ts =>
    have htexts : ∀ us : List Text, (us.map Document.text).filterMap (fun
        | .text t => some t
        | _ => none) = us := by
      intro us
      induction us with
      | nil => rfl
      | cons u us ih => simp
    rw [if_neg (by simp)]
    exact congrArg (fun us => some (Text.join "," us)) (htexts (t :: ts))

/-- Under the word of an option stands the text that was chosen for it, and nothing else. -/
theorem raw_filterMap {os : List OptionName} (hn : os.Nodup) (f : OptionName → Option Text) :
    OptionMap.raw (os.filterMap fun p => (f p).map fun raw => (p.text, raw)) o = if o ∈ os then f o else none := by
  induction os with
  | nil => rfl
  | cons p os ih =>
    obtain ⟨hp, hn⟩ := List.nodup_cons.mp hn
    rw [List.filterMap_cons]
    cases hf : f p with
    | none =>
      rw [Option.map_none, ih hn]
      by_cases ho : o = p
      · simp [ho, hp, hf]
      · simp [ho]
    | some raw =>
      rw [Option.map_some, OptionMap.raw, Entries.get?_cons]
      by_cases ho : o = p
      · simp [ho, hf]
      · rw [if_neg (mt OptionName.text_injective ho)]
        simp only [List.mem_cons, ho, false_or]
        exact ih hn

/-- Each option has its text. -/
theorem raw_recoded (options : OptionMap) (described : Entries Document) (o : OptionName) :
    (options.recoded described).raw o = options.recodedText described o := by
  rw [recoded, raw_filterMap OptionName.nodup_all, if_pos (OptionName.mem_all o)]

/-- **The options of a description resolve to the configuration that was described**, with any directory service, which
is not asked. Only the texts of the nine options matter, so they may stand in any order and among unknown ones. The
directory service that was asked before has to answer with a path that is read from some text (`Path.isNormal_parse`),
as all of them are. -/
theorem resolve_recoded {table : Given Table} {index : Given Index} {t : Table} {i : Index} {naming : Naming}
    {c : Config σ} (ht : table.identity = .known t) (hi : index.identity = .known i)
    (hn : ∀ base, naming t = .ok base → base.IsNormal)
    (hc : (options.resolve table index naming builder).result = .ok c)
    (hraw : ∀ o, options'.raw o = options.recodedText c.describe o) (naming' : Naming) :
    (options'.resolve table index naming' builder).result = .ok c ∧
      (options'.resolve table index naming' builder).Unasked := by
  rw [result_resolve ht hi] at hc
  obtain ⟨hrefresh, hram, hmerge, hcached, hthreads, hqueues, hcenters, hpath, hschema⟩ := values_eq_ok_iff.mp hc
  obtain ⟨p, hp, hnormal⟩ := isNormal_of_path hn hpath
  have hdirectory : options'.raw .directoryPath = some p.text := by
    rw [hraw]
    show describedText? (Document.ofText? (c.path.map Path.text)) = some p.text
    rw [hp]
    rfl
  refine ⟨?_, unasked_resolve hdirectory table index naming' builder⟩
  rw [result_resolve ht hi]
  refine values_eq_ok_iff.mpr ⟨?_, ?_, ?_, ?_, ?_, ?_, ?_, ?_, ?_⟩
  · rw [refreshSeconds_of_raw (hraw .refreshSeconds), hrefresh]
  · exact positiveInteger_of_raw (by decide) (by decide) hram (hraw .ramBufferMb)
  · exact positiveInteger_of_raw (by decide) (by decide) hmerge (hraw .maxMergeMb)
  · exact positiveInteger_of_raw (by decide) (by decide) hcached (hraw .maxCachedMb)
  · exact indexingThreads_of_raw hthreads (hraw .indexingThreads)
  · exact positiveInteger_of_raw (by decide) (by decide) hqueues (hraw .indexingQueuesSize)
  · rw [← hcenters]
    refine excludedDataCenters_of_raw ((hraw _).trans ?_)
    rw [hcenters]
    exact describedText?_texts _
  · rw [hp]
    exact path_of_raw hnormal hdirectory _ _ _
  · rw [schema_of_raw (hraw .schema), hschema]

/-- Options with signs, leading zeros, blanks and an empty name among the data centers. -/
def unevenOptions : OptionMap :=
  [(OptionName.indexingThreads.text, "-007"), (OptionName.ramBufferMb.text, "+0128"), ("unknown", "1"),
    (OptionName.excludedDataCenters.text, " dc1,, dc2\t"), (OptionName.refreshSeconds.text, " .5e1"),
    (OptionName.schema.text, "\x7b\"fields\": \x7b\"body\": \x7b\"type\": \"text\"\x7d\x7d\x7d")]

/-- They resolve, and so do the options of their description. -/
theorem resolve_recoded_unevenOptions :
    ∃ c, (unevenOptions.resolve (.bare oneColumn) (.bare bareIndex) dataDirectories.naming schemaBuilder).result =
        .ok c ∧
      ((unevenOptions.recoded c.describe).resolve (.bare oneColumn) (.bare bareIndex) noNaming
        schemaBuilder).result = .ok c := by
  obtain ⟨c, hc⟩ : ∃ c, (unevenOptions.resolve (.bare oneColumn) (.bare bareIndex)
      dataDirectories.naming schemaBuilder).result = .ok c :=
    exists_of_isOk (by decide +kernel)
  have hn : ∀ base, dataDirectories.naming oneColumn = .ok base → base.IsNormal := by
    intro base h
    cases h
    exact Directories.isNormal_baseFor (Path.isNormal_parse _) _ _
  exact ⟨c, hc, (resolve_recoded rfl rfl hn hc (raw_recoded _ _) noNaming).1⟩

end OptionMap

end IndexOptions
