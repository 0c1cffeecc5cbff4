import IndexOptions.Proofs.Answers
import IndexOptions.Session.Basic

/-!
# What one step of a session does

A step of a session (`Session.Step.run`) changes what the service keeps in few ways: some steps drop the shared
directories (`Step.drops`), one clears the settings (`Step.clears`), and any other leaves both as they are or fills
them. What a step obtains is told by `Step.obtained?` and `Step.settings?`, and the service after the step by one
equation for all kinds of steps (`service_run`). It has a part for each thing that is kept:

- `shared?_run`: the directories that were kept, or else those that the step obtains;
- `settings?_run`: the settings that were kept, or else those that the step reads;
- `made_run`: new directories are counted.

A step that obtains directories works with just these (`result_run_of_obtained`).
-/

namespace IndexOptions.Session

open Service

namespace Step

/-! ## Kinds of steps -/

/-- The step drops the shared directories. -/
def drops : Step → Bool
  | dropDirectories | stop => true
  | _ => false

/-- The step clears the settings. -/
def clears : Step → Bool
  | clearSettings => true
  | _ => false

/-- Whether a step asks for the shared directories. -/
def asks (s : Service) : Step → Bool
  | obtainDirectories => true
  | start => s.configureLogging.1.isOk
  | .resolve options table index => (options.resolve table index s.sharedNaming (Schema.builder s.depth)).asks
  | .resolveStored table index => (OptionMap.resolveStored table index s.sharedNaming (Schema.builder s.depth)).asks
  | .request r => r.needsDirectories s.depth
  | _ => false

/-- The shared directories that a step obtains. -/
def obtained? (s : Service) (step : Step) : Option SharedDirectories :=
  if step.asks s then s.obtainDirectories.result.toOption else none

/-- Whether a step reads the settings: by itself, or to make shared directories. -/
def reads (s : Service) : Step → Bool
  | readSettings | start => true
  | step => step.asks s && s.shared?.isNone

/-- The settings that a step reads. -/
def settings? (s : Service) (step : Step) : Option Settings :=
  if step.reads s then s.obtainSettings.1.toOption else none

/-- The step may ask for the shared directories, and does nothing else to what is kept. -/
def onlyAsks : Step → Bool
  | obtainDirectories | .resolve .. | .resolveStored .. | .request _ => true
  | _ => false

/-! ## What is kept after a step -/

/-- The service as a step leaves it, but for the environment and the log: what is kept stays unless the step drops or
clears it, and what is not kept is filled with what the step obtains or reads. -/
def keeping (s : Service) (step : Step) : Service :=
  { s with
    settings? := if step.clears then none else s.settings?.or (step.settings? s)
    shared? := if step.drops then none else s.shared?.or (step.obtained? s)
    made := if s.shared?.isNone && (step.obtained? s).isSome then s.made + 1 else s.made }

variable {s : Service} {step : Step}

/-- A step that obtains and reads nothing may still drop or clear something. -/
theorem keeping_of_unfilled (hobtained : step.obtained? s = none) (hread : step.settings? s = none) :
    step.keeping s =
      { s with
        settings? := if step.clears then none else s.settings?
        shared? := if step.drops then none else s.shared? } := by
  simp [keeping, hobtained, hread]

theorem keeping_of_onlyAsks (h : step.onlyAsks) :
    step.keeping s = if step.asks s then s.obtainDirectories.service else s := by
  obtain ⟨hdrops, hclears, hreads⟩ :
      step.drops = false ∧ step.clears = false ∧ step.reads s = (step.asks s && s.shared?.isNone) := by
    cases step with
    | obtainDirectories | resolve | resolveStored | request => exact ⟨rfl, rfl, rfl⟩
    | _ => cases h
  cases hasks : step.asks s with
  | false =>
    rw [hasks, Bool.false_and] at hreads
    rw [keeping_of_unfilled (by simp [obtained?, hasks]) (by simp [settings?, hreads]), hdrops, hclears]
    rfl
  | true =>
    rw [if_pos rfl, service_obtainDirectories]
    simp [keeping, obtained?, settings?, hdrops, hclears, hasks, hreads]

theorem service_run_of_onlyAsks (s : Service) (h : step.onlyAsks) : (step.run s).service = step.keeping s := by
  rw [keeping_of_onlyAsks h]
  cases step with
  | obtainDirectories => rfl
  | resolve options table index => exact service_run_shared s _
  | resolveStored table index => exact service_run_shared s _
  | request r => exact Http.service_answer s r
  | _ => cases h

/-- A start reads the settings and then, if the log can be configured, asks for the directories. -/
theorem service_start_keeping (s : Service) : ∃ logging, s.start.service = { start.keeping s with logging } := by
  obtain ⟨logging, hs⟩ := service_configureLogging s
  refine ⟨logging, ?_⟩
  have hsettings : s.settings?.or (start.settings? s) = s.obtainSettings.1.toOption := (toOption_obtainSettings s).symm
  rw [service_start, keeping, hsettings]
  cases h : s.configureLogging.1.isOk with
  | false =>
    have hobtained : start.obtained? s = none := if_neg (ne_true_of_eq_false h)
    rw [if_neg Bool.false_ne_true, hs, hobtained]
    simp [drops, clears]
  | true =>
    obtain ⟨v, hv⟩ := exists_settings_of_configureLogging h
    have hobtained : start.obtained? s = s.obtainDirectories.result.toOption := if_pos h
    rw [if_pos rfl, service_obtainDirectories, result_obtainDirectories_configured h, hs, hobtained, hv]
    rfl

/-- What one step does to the service: what is kept is as `keeping` tells, and else only the environment and the log may
change. -/
theorem service_run (s : Service) (step : Step) :
    ∃ environment logging, (step.run s).service = { step.keeping s with environment, logging } := by
  cases step with
  | obtainDirectories | resolve | resolveStored | request => exact ⟨_, _, service_run_of_onlyAsks s rfl⟩
  | dropDirectories | stop | clearSettings =>
    refine ⟨s.environment, s.logging, ?_⟩
    rw [keeping_of_unfilled rfl rfl]
    rfl
  | setVariables changes =>
    obtain ⟨environment, h⟩ := service_setVariables changes s
    refine ⟨environment, s.logging, ?_⟩
    rw [keeping_of_unfilled rfl rfl]
    exact h
  | readSettings =>
    refine ⟨s.environment, s.logging, ?_⟩
    have hread : s.settings?.or (readSettings.settings? s) = s.obtainSettings.1.toOption :=
      (toOption_obtainSettings s).symm
    rw [keeping, hread]
    show s.obtainSettings.2 = _
    rw [obtainSettings_eq]
    simp [drops, clears, show readSettings.obtained? s = none from rfl]
  | start =>
    obtain ⟨logging, h⟩ := service_start_keeping s
    exact ⟨s.environment, logging, h⟩

/-- The shared directories after a step: those that were kept, or else those that the step obtains. -/
theorem shared?_run (s : Service) (step : Step) :
    (step.run s).service.shared? = if step.drops then none else s.shared?.or (step.obtained? s) := by
  obtain ⟨environment, logging, h⟩ := service_run s step
  rw [h, keeping]

/-- The settings after a step: those that were kept, or else those that the step reads. -/
theorem settings?_run (s : Service) (step : Step) :
    (step.run s).service.settings? = if step.clears then none else s.settings?.or (step.settings? s) := by
  obtain ⟨environment, logging, h⟩ := service_run s step
  rw [h, keeping]

/-- No step moves the service or changes its stack. -/
theorem surroundings_run (s : Service) (step : Step) :
    (step.run s).service.workingDirectory = s.workingDirectory ∧ (step.run s).service.depth = s.depth := by
  obtain ⟨environment, logging, h⟩ := service_run s step
  rw [h, keeping]
  exact ⟨rfl, rfl⟩

/-- How many shared directories were made after a step. -/
theorem made_run (s : Service) (step : Step) :
    (step.run s).service.made = if s.shared?.isNone && (step.obtained? s).isSome then s.made + 1 else s.made := by
  obtain ⟨environment, logging, h⟩ := service_run s step
  rw [h, keeping]

/-! ## What a step obtains -/

variable {o : SharedDirectories} {v : Settings}

theorem obtained?_eq_some_iff : step.obtained? s = some o ↔ step.asks s ∧ s.obtainDirectories.result = .ok o := by
  unfold obtained?
  cases step.asks s with
  | false => simp
  | true => simp [toOption_eq_some_iff]

theorem drops_eq_false_of_asks (h : step.asks s) : step.drops = false := by
  cases step with
  | dropDirectories | stop => cases h
  | _ => rfl

theorem clears_eq_false_of_asks (h : step.asks s) : step.clears = false := by
  cases step with
  | clearSettings => cases h
  | _ => rfl

theorem reads_of_asks (h : step.asks s) (hs : s.shared? = none) : step.reads s := by
  cases step with
  | readSettings | start => rfl
  | _ => simpa [reads, hs] using h

/-- The directories that a step obtains are kept after it. -/
theorem shared?_run_of_obtained (h : step.obtained? s = some o) : (step.run s).service.shared? = some o := by
  obtain ⟨hasks, hresult⟩ := obtained?_eq_some_iff.mp h
  rw [shared?_run, drops_eq_false_of_asks hasks, if_neg Bool.false_ne_true, h]
  rcases obtainDirectories_eq_ok_iff.mp hresult with hkept | ⟨hnone, -⟩
  · rw [hkept, Option.some_or]
  · rw [hnone, Option.none_or]

/-- New directories belong to the settings that are kept when they are made, and have a new serial number. -/
theorem exists_settings_of_made (hs : s.shared? = none) (h : step.obtained? s = some o) :
    ∃ v, (step.run s).service.settings? = some v ∧
      o = ⟨s.made, Directories.ofText s.workingDirectory.path v.dataDirectory⟩ := by
  obtain ⟨hasks, hresult⟩ := obtained?_eq_some_iff.mp h
  rcases obtainDirectories_eq_ok_iff.mp hresult with hkept | ⟨-, v, hv, ho⟩
  · rw [hs] at hkept
    cases hkept
  · refine ⟨v, ?_, ho⟩
    rw [settings?_run, clears_eq_false_of_asks hasks, if_neg Bool.false_ne_true, settings?,
      if_pos (reads_of_asks hasks hs), ← toOption_obtainSettings, hv]
    rfl

/-- Settings that are read when none are kept are those of the environment. -/
theorem load_of_read (hs : s.settings? = none) (h : step.settings? s = some v) :
    Settings.load s.environment s.envFile = .ok v := by
  have hv : s.obtainSettings.1 = .ok v := by
    unfold settings? at h
    split at h
    · exact toOption_eq_some_iff.mp h
    · cases h
  rcases obtainSettings_eq_ok_iff.mp hv with hkept | ⟨-, hload⟩
  · rw [hs] at hkept
    cases hkept
  · exact hload

/-- The reply of a step that obtains shared directories, where containers may nest to a depth. -/
def replyWith (depth : Nat) (o : SharedDirectories) : Step → Reply
  | obtainDirectories => .directories (.ok o)
  | start => .started (.ok ())
  | .resolve options table index =>
    .config (options.resolve table index o.directories.naming (Schema.builder depth)).result
  | .resolveStored table index =>
    .config (OptionMap.resolve index.options table (.bare index) o.directories.naming (Schema.builder depth)).result
  | .request r => .response (Http.resolvedWith o.directories depth r)
  | _ => .done

/-- A resolution works with the shared directories that can be obtained. -/
theorem result_run_resolve (hresult : s.obtainDirectories.result = .ok o) (options : OptionMap) (table : Given Table)
    (index : Given Index) :
    (s.resolve .shared (Schema.builder s.depth) options table index).result =
      (options.resolve table index o.directories.naming (Schema.builder s.depth)).result := by
  show (options.resolve table index s.sharedNaming (Schema.builder s.depth)).result = _
  rw [sharedNaming_of_obtained hresult]

/-- What a step obtains is what it works with. -/
theorem result_run_of_obtained (h : step.obtained? s = some o) : (step.run s).result = step.replyWith s.depth o := by
  obtain ⟨hasks, hresult⟩ := obtained?_eq_some_iff.mp h
  cases step with
  | obtainDirectories => exact congrArg Reply.directories hresult
  | start => exact congrArg Reply.started (result_start hasks hresult)
  | resolve options table index => exact congrArg Reply.config (result_run_resolve hresult options table index)
  | resolveStored table index =>
    exact congrArg Reply.config (result_run_resolve hresult index.options table (.bare index))
  | request r =>
    obtain ⟨hroute, hmethod, -⟩ := Http.Request.needsDirectories_iff.mp hasks
    exact congrArg Reply.response (Http.result_answer_resolve hroute hmethod hresult)
  | _ => cases hasks

end Step

end IndexOptions.Session
