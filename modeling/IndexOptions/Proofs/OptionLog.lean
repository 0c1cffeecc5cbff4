import IndexOptions.Proofs.Calls

/-!
# The log of a look at options

Each look at options begins with one record for every option that was given, in order (`OptionMap.reports`). The checks
themselves log nothing (`each_isCall_values`, `each_isCall_collected`). They may have the shared directories made, and
the service logs this once, however often it is asked (`Service.records_replay_shared`, by induction on the events).
Only a resolution that comes to a configuration adds a record, at the end (`events_resolve`).

`options_logged_once` puts these together into what is logged by the service, for all outcomes of all three ways.
-/

namespace IndexOptions

/-! ## What the service logs -/

namespace Service

variable {α : Type} {source : Source}

theorem replay_append (es es' : List Event) (s : Service) :
    replay source (es ++ es') s =
      ((replay source es s).1 ++ (replay source es' (replay source es s).2).1,
        (replay source es' (replay source es s).2).2) := by
  induction es generalizing s with
  | nil => rfl
  | cons e es ih =>
    cases e with
    | asked t =>
      cases source with
      | shared => simp only [List.cons_append, replay, ih, List.append_assoc]
      | own naming => simp only [List.cons_append, replay, ih]
    | logged | built | checked => simp only [List.cons_append, replay, ih]

theorem replay_logged (rs : List LogRecord) (s : Service) : replay source (rs.map .logged) s = (rs, s) := by
  induction rs with
  | nil => rfl
  | cons r rs ih => simp only [List.map_cons, replay, ih]

/-- New data directories are told by one record, and nothing else is. -/
theorem records_obtainDirectories (s : Service) :
    s.obtainDirectories.records =
      if s.shared?.isSome then []
      else (s.obtainDirectories.result.toOption.map fun o => initializedRecord o.directories).toList := by
  unfold obtainDirectories
  cases s.shared? with
  | some shared => rfl
  | none =>
    rw [obtainSettings_eq]
    cases s.obtainSettings.1 <;> rfl

/-- Asking again logs nothing. -/
theorem records_obtainDirectories_again (s : Service) : s.obtainDirectories.service.obtainDirectories.records = [] := by
  rw [records_obtainDirectories, shared?_obtainDirectories]
  cases h : s.obtainDirectories.result with
  | ok o => rfl
  | error ps =>
    rw [service_obtainDirectories_of_error h, h]
    rfl

/-- Calls log that the shared directories are new, if they are asked for, however often they are. -/
theorem records_replay_shared {es : List Event} (h : ∀ e ∈ es, e.isCall) (s : Service) :
    (replay .shared es s).1 =
      if (es.any fun
        | .asked _ => true
        | _ => false) then s.obtainDirectories.records else [] := by
  induction es generalizing s with
  | nil => rfl
  | cons e es ih =>
    obtain ⟨he, hes⟩ := List.forall_mem_cons.mp h
    cases e with
    | logged r => cases he
    | built | checked => exact ih hes s
    | asked t =>
      rw [List.any_cons, Bool.true_or, if_pos rfl]
      show s.obtainDirectories.records ++ (replay .shared es s.obtainDirectories.service).1 = _
      rw [ih hes, records_obtainDirectories_again, ite_self, List.append_nil]

theorem records_replay_own {es : List Event} (h : ∀ e ∈ es, e.isCall) (naming : Naming) (s : Service) :
    (replay (.own naming) es s).1 = [] := by
  induction es with
  | nil => rfl
  | cons e es ih =>
    obtain ⟨he, hes⟩ := List.forall_mem_cons.mp h
    cases e with
    | logged r => cases he
    | asked | built | checked => exact ih hes

/-- A computation that only calls is told by the log if it has new data directories made. -/
theorem records_run_of_calls {x : Traced α} (h : x.Each fun e => e.isCall) (s : Service) (source : Source) :
    (s.run source x).records = [] ∨ ∃ d, (s.run source x).records = [initializedRecord d] := by
  cases source with
  | own naming => exact .inl (records_replay_own h naming s)
  | shared =>
    show (replay .shared x.events s).1 = [] ∨ ∃ d, (replay .shared x.events s).1 = [initializedRecord d]
    rw [records_replay_shared h]
    split
    · rw [records_obtainDirectories]
      split
      · exact .inl rfl
      · cases s.obtainDirectories.result with
        | error ps => exact .inl rfl
        | ok o => exact .inr ⟨_, rfl⟩
    · exact .inl rfl

theorem records_run_of_unasked {x : Traced α} (h : x.Each fun e => e.isCall) (hx : x.Unasked) (s : Service)
    (source : Source) : (s.run source x).records = [] := by
  cases source with
  | own naming => exact records_replay_own h naming s
  | shared =>
    have hasks : ¬x.asks := Bool.not_eq_true _ ▸ Traced.asks_eq_false_iff.mpr hx
    exact (records_replay_shared h s).trans (if_neg hasks)

end Service

namespace OptionMap

open Traced

variable {σ : Type} {options : OptionMap} {message : Text}

/-! ## What options are logged -/

/-- What has to be logged for each option: its word and its text, at the level for debugging, with the message for
options that are recognized or the one for those that are not. -/
def reports (options : OptionMap) (message : Text) : List LogRecord :=
  options.map fun (key, value) =>
    { level := LogLevel.debug
      logger := loggerName
      message := if key ∈ OptionName.all.map OptionName.text then message else "Ignoring unrecognized option"
      extra := [("option", .text key), ("value", .text value)] }

/-- The message in the end of a resolution. -/
def resolvedMessage : Text := "Index options resolved"

/-- What has to be logged in the end: the values of the configuration, if there is one. -/
def completion (i : Index) : Except ResolveError (Config σ) → List LogRecord
  | .ok c => [⟨LogLevel.debug, loggerName, resolvedMessage, ("index", .text i.name) :: c.describe⟩]
  | .error _ => []

theorem isRecognized_iff (key : Text) : OptionName.isRecognized key ↔ key ∈ OptionName.all.map OptionName.text := by
  simp only [OptionName.isRecognized, OptionName.ofText?, List.find?_isSome, List.mem_map, decide_eq_true_eq]

theorem events_logOptions (options : OptionMap) (message : Text) :
    (options.logOptions message).events = (options.reports message).map .logged := by
  simp only [logOptions, reports, List.map_map]
  refine List.map_congr_left fun entry _ => ?_
  obtain ⟨key, value⟩ := entry
  simp only [Function.comp_apply, optionRecord, record, isRecognized_iff]

/-! ## What the checks log -/

theorem each_isCall_schema (options : OptionMap) (table : Identity Table) (builder : Builder σ) :
    (options.schema table builder).Each fun e => e.isCall := each_schema (fun _ => rfl) (fun _ => rfl) _ _ _

theorem each_isCall_path (options : OptionMap) (table : Identity Table) (index : Identity Index) (naming : Naming) :
    (options.path table index naming).Each fun e => e.isCall := each_path (fun _ _ _ _ _ => rfl) _

theorem each_isCall_values (options : OptionMap) (table : Identity Table) (index : Identity Index) (naming : Naming)
    (builder : Builder σ) : (options.values table index naming builder).Each fun e => e.isCall :=
  each_values (each_isCall_path _ _ _ _) (each_isCall_schema _ _ _)

theorem each_isCall_collected (options : OptionMap) (table : Identity Table) (index : Identity Index) (naming : Naming)
    (builder : Builder σ) : (collectFrom (options.attempts table index naming builder)).Each fun e => e.isCall :=
  each_collectFrom (each_attempts (each_isCall_path _ _ _ _) (each_isCall_schema _ _ _))

/-- Apart from the options, resolving logs the configuration that it comes to, after everything that the checks call. -/
theorem events_resolve {table : Given Table} {index : Given Index} {t : Table} {i : Index}
    (ht : table.identity = .known t) (hi : index.identity = .known i) (naming : Naming) (builder : Builder σ) :
    (options.resolve table index naming builder).events =
      (options.reports "Building with option").map .logged ++
        ((options.values (.known t) (.known i) naming builder).events ++
          (completion i (options.resolve table index naming builder).result).map .logged) := by
  rw [result_resolve ht hi]
  unfold resolve
  rw [ht, hi]
  dsimp only
  rw [events_logOptions_bind, events_logOptions]
  cases h : (options.values (.known t) (.known i) naming builder).result with
  | error e =>
    rw [bind_of_error h]
    exact congrArg _ (List.append_nil _).symm
  | ok c =>
    rw [bind_of_ok h, checked_of_values h]
    rfl

/-! ## The whole log -/

/-- What a look at options logs, for the message of its mode, the records `caused` by its checks and what it logs in
the end. -/
structure LogsOnce (options : OptionMap) (message : Text) (caused final records : List LogRecord) : Prop where
  /-- The options come first, and what the checks cause stands before the end. -/
  ordered : records = options.reports message ++ (caused ++ final)
  /-- The checks cause no record but that of new data directories. -/
  directories : caused = [] ∨ ∃ d, caused = [Service.initializedRecord d]
  /-- Of the resolver there are no other records. -/
  own : records.filter (fun r => r.logger = loggerName) = options.reports message ++ final
  /-- The end is not told twice. -/
  resolved : records.filter (fun r => r.message = resolvedMessage) = final

theorem of_mem_reports {r : LogRecord} (hmessage : message ≠ resolvedMessage) (h : r ∈ options.reports message) :
    r.logger = loggerName ∧ r.message ≠ resolvedMessage := by
  obtain ⟨⟨key, value⟩, -, rfl⟩ := List.mem_map.mp h
  refine ⟨rfl, ?_⟩
  dsimp only
  split
  · exact hmessage
  · decide

theorem of_mem_completion {r : LogRecord} {i : Index} {result : Except ResolveError (Config σ)}
    (h : r ∈ completion i result) : r.logger = loggerName ∧ r.message = resolvedMessage := by
  cases result with
  | error e => cases h
  | ok c =>
    rw [List.mem_singleton.mp h]
    exact ⟨rfl, rfl⟩

/-- The order of the records tells them apart. -/
theorem logsOnce_of_ordered {caused final records : List LogRecord} (hmessage : message ≠ resolvedMessage)
    (hfinal : ∀ r ∈ final, r.logger = loggerName ∧ r.message = resolvedMessage)
    (hcaused : caused = [] ∨ ∃ d, caused = [Service.initializedRecord d])
    (h : records = options.reports message ++ (caused ++ final)) : LogsOnce options message caused final records := by
  have hforeign : ∀ r ∈ caused, r.logger ≠ loggerName ∧ r.message ≠ resolvedMessage := by
    intro r hr
    rcases hcaused with rfl | ⟨d, rfl⟩
    · cases hr
    · have hlogger : ("indexconf.resources.storage.directories" : Text) ≠ loggerName := by decide
      have hnew : ("Data directories initialized" : Text) ≠ resolvedMessage := by decide
      rw [List.mem_singleton.mp hr]
      exact ⟨hlogger, hnew⟩
  refine ⟨h, hcaused, ?_, ?_⟩
  · have hall : (options.reports message).filter (fun r => r.logger = loggerName) = options.reports message :=
      List.filter_eq_self.mpr fun r hr => decide_eq_true (of_mem_reports hmessage hr).1
    have hnone : caused.filter (fun r => r.logger = loggerName) = [] :=
      List.filter_eq_nil_iff.mpr fun r hr => by simpa using (hforeign r hr).1
    have hend : final.filter (fun r => r.logger = loggerName) = final :=
      List.filter_eq_self.mpr fun r hr => decide_eq_true (hfinal r hr).1
    rw [h, List.filter_append, List.filter_append, hall, hnone, hend, List.nil_append]
  · have hnone : (options.reports message).filter (fun r => r.message = resolvedMessage) = [] :=
      List.filter_eq_nil_iff.mpr fun r hr => by simpa using (of_mem_reports hmessage hr).2
    have hnone' : caused.filter (fun r => r.message = resolvedMessage) = [] :=
      List.filter_eq_nil_iff.mpr fun r hr => by simpa using (hforeign r hr).2
    have hend : final.filter (fun r => r.message = resolvedMessage) = final :=
      List.filter_eq_self.mpr fun r hr => decide_eq_true (hfinal r hr).2
    rw [h, List.filter_append, List.filter_append, hnone, hnone', hend, List.nil_append, List.nil_append]

/-- The log of a computation whose options come first, then the calls of its checks and then the end. -/
theorem logsOnce_run {α β : Type} {x : Traced α} {checks : Traced β} {final : List LogRecord}
    (hmessage : message ≠ resolvedMessage) (hfinal : ∀ r ∈ final, r.logger = loggerName ∧ r.message = resolvedMessage)
    (hcalls : checks.Each fun e => e.isCall)
    (h : x.events = (options.reports message).map .logged ++ (checks.events ++ final.map .logged)) (s : Service)
    (source : Service.Source) :
    LogsOnce options message (s.run source checks).records final (s.run source x).records := by
  refine logsOnce_of_ordered hmessage hfinal (Service.records_run_of_calls hcalls s source) ?_
  show (Service.replay source x.events s).1 = _
  rw [h, Service.replay_append, Service.replay_logged, Service.replay_append, Service.replay_logged]
  rfl

/-- The log of checks that ask for no directory and log nothing in the end. -/
theorem logsOnce_validating {α : Type} {checks : Traced α} (hcalls : checks.Each fun e => e.isCall)
    (hunasked : checks.Unasked) (s : Service) (source : Service.Source) :
    LogsOnce options "Validating option" [] []
      (s.run source (options.logOptions "Validating option" >>= fun _ => checks)).records := by
  have hevents : (options.logOptions "Validating option" >>= fun _ => checks).events =
      (options.reports "Validating option").map .logged ++ (checks.events ++ [].map .logged) := by
    rw [events_logOptions_bind, events_logOptions, List.map_nil, List.append_nil]
  have hlog := logsOnce_run (by decide) (fun r hr => by cases hr) hcalls hevents s source
  rwa [Service.records_run_of_unasked hcalls hunasked] at hlog

/-- **Every option is logged once, before everything that the checks cause, whatever they come to**, for every state of
the service, whoever gives directories and builds schemas.

- A resolution for a table and an index logs the options, then what its checks cause and then, if and only if it comes
  to a configuration, the values of this configuration.
- Checking without an index, in either way, logs the options and nothing else. -/
theorem options_logged_once (s : Service) (source : Service.Source) (options : OptionMap) (builder : Builder σ)
    (table : Given Table) :
    (∀ (index : Given Index) (t : Table) (i : Index), table.identity = .known t → index.identity = .known i →
      LogsOnce options "Building with option"
        (s.run source (options.values (.known t) (.known i) (s.naming source) builder)).records
        (completion i (s.resolve source builder options table index).result)
        (s.resolve source builder options table index).records) ∧
    LogsOnce options "Validating option" [] [] (s.run source (options.validate table builder)).records ∧
    LogsOnce options "Validating option" [] [] (s.run source (options.collectErrors table builder)).records := by
  refine ⟨?_, ?_, ?_⟩
  · intro index t i ht hi
    exact logsOnce_run (by decide) (fun r => of_mem_completion) (each_isCall_values _ _ _ _ _)
      (events_resolve ht hi _ _) s source
  · exact logsOnce_validating (each_isCall_values _ _ _ _ _) (unasked_values (unasked_path_of_unknown _ _ _) _) s source
  · exact logsOnce_validating (each_isCall_collected _ _ _ _ _) (unasked_collected _ _ _ _) s source

/-- A resolution logs six options, one of which is not recognized, has the data directories made, and ends with the
configuration. Without a schema it comes as far as the directories, and for a buffer that is rejected not even there. -/
theorem options_logged_once_unevenOptions :
    (Service.initial.resolve .shared schemaBuilder unevenOptions (.bare oneColumn) (.bare bareIndex)).records.map
        LogRecord.message =
      ["Building with option", "Building with option", "Ignoring unrecognized option", "Building with option",
        "Building with option", "Building with option", "Data directories initialized", "Index options resolved"] ∧
    (Service.initial.resolve .shared schemaBuilder [("unknown", "1")] (.bare oneColumn) (.bare bareIndex)).records.map
        LogRecord.message = ["Ignoring unrecognized option", "Data directories initialized"] ∧
    (Service.initial.resolve .shared schemaBuilder [(OptionName.ramBufferMb.text, "0")] (.bare oneColumn)
        (.bare bareIndex)).records.map LogRecord.message = ["Building with option"] := by
  have hlog := fun options => (options_logged_once Service.initial .shared options schemaBuilder (.bare oneColumn)).1
    (.bare bareIndex) oneColumn bareIndex rfl rfl
  refine ⟨?_, ?_, ?_⟩
  · rw [(hlog unevenOptions).ordered]
    decide +kernel
  · rw [(hlog _).ordered]
    decide +kernel
  · rw [(hlog _).ordered]
    decide +kernel

end OptionMap

end IndexOptions
