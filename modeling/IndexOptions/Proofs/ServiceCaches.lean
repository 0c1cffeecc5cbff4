import IndexOptions.Proofs.CanonicalOptions
import IndexOptions.Service.Basic

/-!
# The two things a service keeps

A service keeps the settings it has loaded and the data directories that all requests share. Whatever needs one of
them comes down to `Service.obtainSettings` and `Service.obtainDirectories`, so what these two give and leave behind is
said once:

- `obtainSettings_eq_ok_iff`, `result_obtainDirectories`: what is obtained, from what is kept and from the environment;
- `obtainSettings_eq`, `service_obtainDirectories`: what is kept afterwards.

Everything else obtains the directories once or not at all: a computation that asks for them (`service_run_shared`) and
a start (`service_start`). Setting variables touches neither (`service_setVariables`).
-/

namespace IndexOptions

namespace Traced

variable {α : Type}

/-- Whether the directory service is asked. -/
def asks (x : Traced α) : Bool :=
  x.events.any fun
    | .asked _ => true
    | _ => false

theorem asks_eq_false_iff {x : Traced α} : x.asks = false ↔ x.Unasked := by
  unfold asks Unasked
  rw [List.any_eq_false]
  constructor
  · intro h t ht
    exact h _ ht rfl
  · rintro h (record | t | text | t) he
    · simp
    · exact absurd he (h t)
    · simp
    · simp

end Traced

namespace Service

variable {s : Service} {v : Settings} {o : SharedDirectories}

/-! ## Settings -/

theorem obtainSettings_of_kept (h : s.settings? = some v) : s.obtainSettings = (.ok v, s) := by
  unfold obtainSettings
  rw [h]

/-- The settings are those that are kept or, if there are none, those that load. -/
theorem obtainSettings_eq_ok_iff :
    s.obtainSettings.1 = .ok v ↔
      s.settings? = some v ∨ (s.settings? = none ∧ Settings.load s.environment s.envFile = .ok v) := by
  unfold obtainSettings
  cases s.settings? with
  | some u => simp
  | none => cases Settings.load s.environment s.envFile <;> simp

/-- Only the settings that are kept may change, and they are the ones that were obtained. -/
theorem obtainSettings_eq (s : Service) :
    s.obtainSettings = (s.obtainSettings.1, { s with settings? := s.obtainSettings.1.toOption }) := by
  obtain ⟨environment, envFile, kept, shared, made, logging⟩ := s
  unfold obtainSettings
  cases kept with
  | some u => rfl
  | none =>
    dsimp only
    cases Settings.load environment envFile <;> rfl

/-- Settings that are kept do not give way to others. -/
theorem toOption_obtainSettings (s : Service) :
    s.obtainSettings.1.toOption = s.settings?.or s.obtainSettings.1.toOption := by
  cases h : s.settings? with
  | some u => rw [obtainSettings_of_kept h]; rfl
  | none => rfl

/-! ## Shared directories -/

theorem obtainDirectories_of_kept (h : s.shared? = some o) : s.obtainDirectories = ⟨.ok o, [], s⟩ := by
  unfold obtainDirectories
  rw [h]

/-- The directories are those that are kept or, if there are none, new ones for the settings. -/
theorem result_obtainDirectories (s : Service) :
    s.obtainDirectories.result =
      match s.shared? with
      | some o => .ok o
      | none =>
        s.obtainSettings.1.map fun v => ⟨s.made, Directories.ofText s.workingDirectory.path v.dataDirectory⟩ := by
  unfold obtainDirectories
  cases s.shared? with
  | some o => rfl
  | none =>
    rw [obtainSettings_eq]
    cases s.obtainSettings.1 <;> rfl

/-- Directories that are obtained are kept already, or are new and belong to the settings of the moment. -/
theorem obtainDirectories_eq_ok_iff :
    s.obtainDirectories.result = .ok o ↔
      s.shared? = some o ∨
        (s.shared? = none ∧ ∃ v, s.obtainSettings.1 = .ok v ∧
          o = ⟨s.made, Directories.ofText s.workingDirectory.path v.dataDirectory⟩) := by
  rw [result_obtainDirectories]
  cases s.shared? with
  | some _ => simp
  | none => cases s.obtainSettings.1 <;> simp [Except.map, eq_comm]

/-- Where settings load there are shared directories. -/
theorem exists_obtainDirectories (h : s.obtainSettings.1 = .ok v) : ∃ o, s.obtainDirectories.result = .ok o := by
  rw [result_obtainDirectories]
  cases s.shared? with
  | some o => exact ⟨o, rfl⟩
  | none =>
    rw [h]
    exact ⟨_, rfl⟩

/-- What is kept after the directories were asked for: the directories, and the settings that were needed to make
them. -/
theorem service_obtainDirectories (s : Service) :
    s.obtainDirectories.service =
      { s with
        settings? := s.settings?.or (if s.shared?.isNone then s.obtainSettings.1.toOption else none)
        shared? := s.shared?.or s.obtainDirectories.result.toOption
        made := if s.shared?.isNone && s.obtainDirectories.result.toOption.isSome then s.made + 1 else s.made } := by
  rw [result_obtainDirectories]
  unfold obtainDirectories
  cases h : s.shared? with
  | some o =>
    obtain ⟨environment, envFile, kept, shared, made, logging⟩ := s
    cases h
    simp
  | none =>
    have hkept :
        s.settings?.or (if (none : Option SharedDirectories).isNone then s.obtainSettings.1.toOption else none) =
          s.obtainSettings.1.toOption := (toOption_obtainSettings s).symm
    rw [hkept, obtainSettings_eq]
    cases s.obtainSettings.1 with
    | error ps => simp [Except.map, Except.toOption, h]
    | ok v => rfl

theorem depth_obtainDirectories (s : Service) : s.obtainDirectories.service.depth = s.depth := by
  rw [service_obtainDirectories]

theorem service_obtainDirectories_of_error {ps : List Problem} (h : s.obtainDirectories.result = .error ps) :
    s.obtainDirectories.service = s := by
  obtain ⟨environment, envFile, kept, shared, made, logging⟩ := s
  unfold obtainDirectories obtainSettings at h ⊢
  cases shared with
  | some o => rfl
  | none =>
    cases kept with
    | some v => cases h
    | none =>
      dsimp only at h ⊢
      cases hv : Settings.load environment envFile with
      | ok v =>
        rw [hv] at h
        cases h
      | error qs => rfl

theorem shared?_obtainDirectories (s : Service) :
    s.obtainDirectories.service.shared? = s.obtainDirectories.result.toOption := by
  rw [service_obtainDirectories]
  cases h : s.shared? with
  | none => rfl
  | some o =>
    rw [obtainDirectories_of_kept h]
    rfl

/-- Whoever asks for the base directory of a table gets that of the shared directories. -/
theorem sharedNaming_of_obtained (h : s.obtainDirectories.result = .ok o) : s.sharedNaming = o.directories.naming := by
  funext t
  unfold sharedNaming
  rw [h]
  rfl

/-- Asking again changes nothing. -/
theorem service_obtainDirectories_again (s : Service) :
    s.obtainDirectories.service.obtainDirectories.service = s.obtainDirectories.service := by
  cases h : s.obtainDirectories.result with
  | ok o =>
    have hkept : s.obtainDirectories.service.shared? = some o := by rw [shared?_obtainDirectories, h]; rfl
    rw [obtainDirectories_of_kept hkept]
  | error ps => rw [service_obtainDirectories_of_error h, service_obtainDirectories_of_error h]

/-! ## Computations -/

/-- The shared directories are obtained if a computation asks for them, however often it does. -/
theorem service_replay_shared (es : List Event) (s : Service) :
    (replay .shared es s).2 =
      if (es.any fun
        | .asked _ => true
        | _ => false) then s.obtainDirectories.service else s := by
  induction es generalizing s with
  | nil => rfl
  | cons e es ih =>
    cases e with
    | asked t =>
      rw [List.any_cons, Bool.true_or, if_pos rfl]
      show (replay .shared es s.obtainDirectories.service).2 = _
      rw [ih, service_obtainDirectories_again, ite_self]
    | logged record => exact ih s
    | built text => exact ih s
    | checked t => exact ih s

theorem service_run_shared {α : Type} (s : Service) (x : Traced α) :
    (s.run .shared x).service = if x.asks then s.obtainDirectories.service else s :=
  service_replay_shared x.events s

/-! ## Variables -/

/-- Setting variables changes nothing but the environment. -/
theorem service_setVariables (changes : List (Text × Option Text)) (s : Service) :
    ∃ environment, (s.setVariables changes).2 = { s with environment } := by
  have hone : ∀ (s : Service) (name : Text) (value : Option Text),
      ∃ environment, s.setVariable name value = { s with environment } := by
    intro s name value
    cases value <;> exact ⟨_, rfl⟩
  induction changes generalizing s with
  | nil => exact ⟨s.environment, rfl⟩
  | cons change changes ih =>
    obtain ⟨name, value⟩ := change
    unfold setVariables
    split
    · exact hone s name none
    · obtain ⟨environment, h⟩ := hone s name value
      obtain ⟨environment', h'⟩ := ih (s.setVariable name value)
      rw [h] at h'
      exact ⟨environment', by rw [h, h']⟩

/-! ## Start -/

/-- Configuring the log obtains the settings and changes nothing else that matters to them. -/
theorem service_configureLogging (s : Service) :
    ∃ logging, s.configureLogging.2 = { s with settings? := s.obtainSettings.1.toOption, logging } := by
  unfold configureLogging
  rw [obtainSettings_eq]
  cases s.obtainSettings.1 with
  | error ps => exact ⟨s.logging, rfl⟩
  | ok v =>
    dsimp only
    split
    · exact ⟨s.logging, rfl⟩
    · next logging _ => exact ⟨logging, rfl⟩

theorem exists_settings_of_configureLogging (h : s.configureLogging.1.isOk) : ∃ v, s.obtainSettings.1 = .ok v := by
  unfold configureLogging at h
  rw [obtainSettings_eq] at h
  cases hv : s.obtainSettings.1 with
  | error ps =>
    rw [hv] at h
    cases h
  | ok v => exact ⟨v, rfl⟩

/-- The shared directories are the same before and after the log is configured. -/
theorem result_obtainDirectories_configured (h : s.configureLogging.1.isOk) :
    s.configureLogging.2.obtainDirectories.result = s.obtainDirectories.result := by
  obtain ⟨v, hv⟩ := exists_settings_of_configureLogging h
  obtain ⟨logging, hs⟩ := service_configureLogging s
  have hkept : s.configureLogging.2.settings? = some v := by
    rw [hs, hv]
    rfl
  rw [result_obtainDirectories, result_obtainDirectories, obtainSettings_of_kept hkept, hv, hs]

/-- A start with settings that load is the configuration of the log, and then the shared directories. -/
theorem start_of_settings (hv : s.obtainSettings.1 = .ok v) :
    s.start =
      match s.configureLogging with
      | (.error e, after) => ⟨.error e, [], after⟩
      | (.ok (), after) =>
        ⟨(after.obtainDirectories.result.map fun _ => ()).mapError .settings,
          startingRecord v :: after.obtainDirectories.records, after.obtainDirectories.service⟩ := by
  have hlog : ({ s with settings? := some v } : Service).configureLogging = s.configureLogging := by
    unfold configureLogging
    rw [obtainSettings_of_kept rfl, obtainSettings_eq s, hv]
    rfl
  rw [← hlog]
  unfold start
  rw [obtainSettings_eq, hv]
  rfl

/-- A start configures the log and, if that is possible, asks for the directories. -/
theorem service_start (s : Service) :
    s.start.service =
      if s.configureLogging.1.isOk then s.configureLogging.2.obtainDirectories.service else s.configureLogging.2 := by
  cases hv : s.obtainSettings.1 with
  | error ps =>
    have hlog : s.configureLogging = (.error (.settings ps), s.obtainSettings.2) := by
      unfold configureLogging
      rw [obtainSettings_eq, hv]
    rw [hlog]
    unfold start
    rw [obtainSettings_eq, hv]
    rfl
  | ok v =>
    rw [start_of_settings hv]
    obtain ⟨result, after⟩ := s.configureLogging
    cases result <;> rfl

/-- A start that asks for the directories and gets them is a success. -/
theorem result_start (h : s.configureLogging.1.isOk) (ho : s.obtainDirectories.result = .ok o) :
    s.start.result = .ok () := by
  obtain ⟨v, hv⟩ := exists_settings_of_configureLogging h
  rw [← result_obtainDirectories_configured h] at ho
  rw [start_of_settings hv]
  generalize s.configureLogging = configured at h ho
  obtain ⟨result, after⟩ := configured
  cases result with
  | error e => cases h
  | ok _ =>
    dsimp only at ho ⊢
    rw [ho]
    rfl

end Service

end IndexOptions
