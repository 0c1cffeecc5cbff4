import IndexOptions.Proofs.ResolutionAnswers
import IndexOptions.Proofs.Sessions

/-!
# Settings that do not load

While no settings are kept and those of the environment do not load (`Service.CannotLoad`), whatever needs them fails
and leaves the whole service as it was, at whichever depth it comes to the settings (`Step.run_of_cannotLoad`). A
resolution comes to them only if it asks for the shared directories, and then it fails with the problems of the settings
(`OptionMap.failsAsked_resolve`); if it does not come that far, it has failed before
(`OptionMap.exists_error_of_unnamed`).

So steps that fail in this way may be put into a session anywhere, and the session goes on as it did before: the replies
to all other steps and the service at the end stay the same (`run_of_padded`, by induction on the session). Nothing
has to be cleared or dropped afterwards either: as soon as settings load, each step obtains what it needs
(`Step.result_run_of_attempt`).
-/

namespace IndexOptions

namespace Traced

variable {α β : Type} {e : ResolveError}

/-! ## Directory services that fail -/

/-- The computation fails with an error if it asks the directory service. -/
def FailsAsked (e : ResolveError) (x : Traced α) : Prop := x.asks → x.result = .error e

theorem failsAsked_of_unasked {x : Traced α} (h : x.Unasked) : x.FailsAsked e := by
  intro hasks
  rw [asks_eq_false_iff.mpr h] at hasks
  cases hasks

theorem failsAsked_bind {x : Traced α} {f : α → Traced β} (hx : x.FailsAsked e) (hf : ∀ a, (f a).FailsAsked e) :
    (x >>= f).FailsAsked e := by
  intro hasks
  cases h : x.result with
  | error e' =>
    rw [bind_of_error h] at hasks ⊢
    rw [Except.error.inj (h.symm.trans (hx hasks))]
  | ok a =>
    rw [bind_of_ok h] at hasks ⊢
    have hunasked : ¬x.asks := fun hasked => by
      rw [hx hasked] at h
      cases h
    unfold asks at hasks hunasked
    rw [List.any_append, Bool.or_eq_true] at hasks
    exact hf a (hasks.resolve_left hunasked)

end Traced

namespace OptionMap

open Traced

variable {σ : Type} {options : OptionMap} {naming : Naming} {e : ResolveError}

theorem failsAsked_path (hnaming : ∀ t, naming t = .error e) (options : OptionMap) (table : Identity Table)
    (index : Identity Index) : (options.path table index naming).FailsAsked e := by
  unfold path
  split
  · exact failsAsked_of_unasked (unasked_of _)
  · split
    · intro _
      simp only [result_bind, Traced.emit, Traced.of, hnaming]
      rfl
    · exact failsAsked_of_unasked (unasked_of _)

/-- A resolution that asks a directory service that fails does so with the error of this service. -/
theorem failsAsked_resolve (hnaming : ∀ t, naming t = .error e) (options : OptionMap) (table : Given Table)
    (index : Given Index) (builder : Builder σ) : (options.resolve table index naming builder).FailsAsked e := by
  have hof : ∀ {α : Type} (x : Except ResolveError α), (Traced.of x).FailsAsked e :=
    fun x => failsAsked_of_unasked (unasked_of x)
  unfold resolve
  split
  · refine failsAsked_bind (failsAsked_of_unasked (unasked_logOptions _ _)) fun _ => failsAsked_bind ?_ fun _ => ?_
    · unfold values
      iterate 6 refine failsAsked_bind (hof _) fun _ => ?_
      exact failsAsked_bind (failsAsked_path hnaming _ _ _) fun _ =>
        failsAsked_bind (failsAsked_of_unasked (unasked_schema _ _ _)) fun _ => hof _
    · exact failsAsked_bind (hof _) fun _ =>
        failsAsked_bind (failsAsked_of_unasked (unasked_emit fun t => by simp)) fun _ => hof _
  · exact hof _

/-- Without a directory among the options nothing resolves with a directory service that fails. -/
theorem exists_error_of_unnamed (hnaming : ∀ t, naming t = .error e) (hraw : options.raw .directoryPath = none)
    (table : Given Table) (index : Given Index) (builder : Builder σ) :
    ∃ e', (options.resolve table index naming builder).result = .error e' := by
  cases h : (options.resolve table index naming builder).result with
  | error e' => exact ⟨e', rfl⟩
  | ok c =>
    exfalso
    cases ht : table.identity with
    | unknown =>
      rw [resolve, ht] at h
      cases h
    | known t =>
      cases hi : index.identity with
      | unknown =>
        rw [resolve, ht, hi] at h
        cases h
      | known i =>
        rw [result_resolve ht hi] at h
        obtain ⟨-, -, -, -, -, -, -, hpath, -⟩ := values_eq_ok_iff.mp h
        unfold path at hpath
        rw [hraw] at hpath
        simp only [result_bind, Traced.emit, Traced.of, hnaming] at hpath
        cases hpath

end OptionMap

namespace Service

variable {s : Service} {ps : List Problem} {v : Settings}

/-! ## Services without settings -/

/-- No settings are kept, and those of the environment do not load. -/
structure CannotLoad (s : Service) (ps : List Problem) : Prop where
  unloaded : s.settings? = none
  fails : Settings.load s.environment s.envFile = .error ps

theorem obtainSettings_of_cannotLoad (h : s.CannotLoad ps) : s.obtainSettings = (.error ps, s) := by
  unfold obtainSettings
  rw [h.unloaded, h.fails]

theorem obtainDirectories_of_cannotLoad (h : s.CannotLoad ps) (hs : s.shared? = none) :
    s.obtainDirectories = ⟨.error ps, [], s⟩ := by
  unfold obtainDirectories
  rw [hs, obtainSettings_of_cannotLoad h]

theorem configureLogging_of_cannotLoad (h : s.CannotLoad ps) : s.configureLogging = (.error (.settings ps), s) := by
  unfold configureLogging
  rw [obtainSettings_of_cannotLoad h]

theorem launch_of_cannotLoad (h : s.CannotLoad ps) : s.launch = (.error ps, s) := by
  unfold launch
  rw [obtainSettings_of_cannotLoad h]
  rfl

theorem start_of_cannotLoad (h : s.CannotLoad ps) : s.start = ⟨.error (.settings ps), [], s⟩ := by
  unfold start
  rw [obtainSettings_of_cannotLoad h]

theorem sharedNaming_of_cannotLoad (h : s.CannotLoad ps) (hs : s.shared? = none) (t : Table) :
    s.sharedNaming t = .error (.settings ps) := by
  unfold sharedNaming
  rw [obtainDirectories_of_cannotLoad h hs]

/-- A computation leaves the service as it was, whether or not it asks for the shared directories. -/
theorem service_run_of_cannotLoad {α : Type} (h : s.CannotLoad ps) (hs : s.shared? = none) (x : Traced α) :
    (s.run .shared x).service = s := by
  rw [service_run_shared, obtainDirectories_of_cannotLoad h hs, ite_self]

/-- Options without a directory do not resolve, whoever builds the schema. -/
theorem resolve_of_cannotLoad {σ : Type} {options : OptionMap} (h : s.CannotLoad ps) (hs : s.shared? = none)
    (hraw : options.raw .directoryPath = none) (builder : Builder σ) (table : Given Table) (index : Given Index) :
    (∃ e, (s.resolve .shared builder options table index).result = .error e) ∧
      (s.resolve .shared builder options table index).service = s :=
  ⟨OptionMap.exists_error_of_unnamed (sharedNaming_of_cannotLoad h hs) hraw table index builder,
    service_run_of_cannotLoad h hs _⟩

/-! ## Services whose environment is repaired -/

/-- The shared directories that are kept, or else new ones for the settings. -/
def directoriesFor (s : Service) (v : Settings) : SharedDirectories :=
  s.shared?.getD ⟨s.made, Directories.ofText s.workingDirectory.path v.dataDirectory⟩

theorem obtainDirectories_of_settings (h : s.obtainSettings.1 = .ok v) :
    s.obtainDirectories.result = .ok (s.directoriesFor v) := by
  rw [result_obtainDirectories, directoriesFor, h]
  cases s.shared? <;> rfl

/-- With settings that load only the name of the log level can stop a start. -/
theorem start_of_loaded (h : s.obtainSettings.1 = .ok v) :
    s.start.result = ((LogLevel.ofName v.logLevel).map fun _ => ()).mapError .logLevel := by
  have hlog : s.configureLogging.1 = ((LogLevel.ofName v.logLevel).map fun _ => ()).mapError .logLevel := by
    unfold configureLogging
    rw [obtainSettings_eq, h]
    dsimp only
    unfold LogSetup.configure
    cases LogLevel.ofName v.logLevel <;> rfl
  cases hlevel : LogLevel.ofName v.logLevel with
  | ok level =>
    rw [hlevel] at hlog
    exact result_start (by rw [hlog]; rfl) (obtainDirectories_of_settings h)
  | error misnamed =>
    rw [hlevel] at hlog
    rw [start_of_settings h]
    generalize s.configureLogging = configured at hlog
    obtain ⟨result, after⟩ := configured
    cases hlog
    rfl

end Service

namespace Session

open Service

/-- The reply tells of a failure. -/
def Reply.isFailure : Reply → Bool
  | .done => false
  | .variables result => !result.isOk
  | .settings result => !result.isOk
  | .directories result => !result.isOk
  | .started result => !result.isOk
  | .config result => !result.isOk
  | .response r => r.status ≠ 200

namespace Step

variable {s : Service} {step : Step} {ps : List Problem} {v : Settings} {o : SharedDirectories}

/-! ## Attempts -/

/-- The step is an attempt to load the settings, or to obtain shared directories that are not there yet. -/
def IsAttempt (s : Service) : Step → Prop
  | readSettings | start => True
  | obtainDirectories => s.shared? = none
  | .resolve options _ _ => s.shared? = none ∧ options.raw .directoryPath = none
  | .resolveStored _ index => s.shared? = none ∧ OptionMap.raw index.options .directoryPath = none
  | .request r => s.shared? = none ∧ Http.Route.ofPath? r.path = some .resolve ∧ r.method = Http.Route.resolve.method
  | _ => False

/-- The reply to an attempt that comes to settings that do not load. -/
def refusedWith (ps : List Problem) : Step → Reply
  | readSettings => .settings (.error ps)
  | obtainDirectories => .directories (.error ps)
  | start => .started (.error (.settings ps))
  | .resolve .. | .resolveStored .. => .config (.error (.settings ps))
  | .request _ => .response Http.internalError
  | _ => .done

/-- A request for a resolution is not answered with status 200 without the shared directories. -/
theorem status_of_cannotLoad {r : Http.Request} (h : s.CannotLoad ps) (hs : s.shared? = none)
    (hroute : Http.Route.ofPath? r.path = some .resolve) (hmethod : r.method = Http.Route.resolve.method) :
    (Http.answer s r).result.status ≠ 200 := by
  intro hstatus
  obtain ⟨-, shared, -, -, hobtained, -⟩ := Http.exists_resolution_of_status hroute hmethod hstatus
  rw [obtainDirectories_of_cannotLoad h hs] at hobtained
  cases hobtained

/-- **An attempt fails and leaves the service as it was.** -/
theorem run_of_cannotLoad (h : s.CannotLoad ps) (ha : step.IsAttempt s) :
    (step.run s).result.isFailure ∧ (step.run s).service = s := by
  cases step with
  | readSettings =>
    rw [run, obtainSettings_of_cannotLoad h]
    exact ⟨rfl, rfl⟩
  | start =>
    rw [run, start_of_cannotLoad h]
    exact ⟨rfl, rfl⟩
  | obtainDirectories =>
    rw [run, obtainDirectories_of_cannotLoad h ha]
    exact ⟨rfl, rfl⟩
  | resolve options table index =>
    obtain ⟨⟨e, he⟩, hservice⟩ := resolve_of_cannotLoad h ha.1 ha.2 (Schema.builder s.depth) table index
    refine ⟨?_, hservice⟩
    rw [run, Session.replyWith, he]
    rfl
  | resolveStored table index =>
    obtain ⟨⟨e, he⟩, hservice⟩ := resolve_of_cannotLoad h ha.1 ha.2 (Schema.builder s.depth) table (.bare index)
    refine ⟨?_, hservice⟩
    show (Reply.config (s.resolve .shared (Schema.builder s.depth) index.options table (.bare index)).result).isFailure
    rw [he]
    rfl
  | request r =>
    obtain ⟨hs, hroute, hmethod⟩ := ha
    refine ⟨decide_eq_true (status_of_cannotLoad h hs hroute hmethod), ?_⟩
    show (Http.answer s r).service = s
    rw [Http.service_answer, obtainDirectories_of_cannotLoad h hs, ite_self]
  | _ => cases ha

/-- What reads the settings only for new directories asks for these. -/
theorem asks_of_reads (h : step.onlyAsks) (hreads : step.reads s) : step.asks s := by
  cases step with
  | obtainDirectories => rfl
  | resolve | resolveStored | request => exact (Bool.and_eq_true_iff.mp hreads).1
  | _ => cases h

/-- An attempt that comes to the settings tells what is wrong with them, or fails inside. -/
theorem result_run_of_cannotLoad (h : s.CannotLoad ps) (ha : step.IsAttempt s) (hreads : step.reads s) :
    (step.run s).result = step.refusedWith ps := by
  cases step with
  | readSettings =>
    rw [run, obtainSettings_of_cannotLoad h]
    rfl
  | start =>
    rw [run, start_of_cannotLoad h]
    rfl
  | obtainDirectories =>
    rw [run, obtainDirectories_of_cannotLoad h ha]
    rfl
  | resolve options table index =>
    have hasks := asks_of_reads rfl hreads
    exact congrArg Reply.config
      (OptionMap.failsAsked_resolve (sharedNaming_of_cannotLoad h ha.1) options table index (Schema.builder s.depth)
        hasks)
  | resolveStored table index =>
    have hasks := asks_of_reads rfl hreads
    exact congrArg Reply.config
      (OptionMap.failsAsked_resolve (sharedNaming_of_cannotLoad h ha.1) index.options table (.bare index)
        (Schema.builder s.depth) hasks)
  | request r =>
    obtain ⟨hs, hroute, hmethod⟩ := ha
    have hasks := asks_of_reads rfl hreads
    obtain ⟨-, -, content, hcontent⟩ := Http.Request.needsDirectories_iff.mp hasks
    have hresult : s.obtainDirectories.result = .error ps := by rw [obtainDirectories_of_cannotLoad h hs]
    exact congrArg Reply.response (Http.status_answer_of_not_obtained hroute hmethod hresult hcontent)
  | _ => cases ha

/-- An attempt to obtain directories that can be obtained works with them. -/
theorem result_run_of_attempt (h : step.onlyAsks) (ha : step.IsAttempt s)
    (hresult : s.obtainDirectories.result = .ok o) : (step.run s).result = step.replyWith s.depth o := by
  cases step with
  | obtainDirectories => exact congrArg Reply.directories hresult
  | resolve options table index => exact congrArg Reply.config (result_run_resolve hresult options table index)
  | resolveStored table index =>
    exact congrArg Reply.config (result_run_resolve hresult index.options table (.bare index))
  | request r => exact congrArg Reply.response (Http.result_answer_resolve ha.2.1 ha.2.2 hresult)
  | _ => cases h

end Step

/-! ## Sessions with attempts put in -/

variable {s : Service} {ps : List Problem} {v : Settings}

/-- What is not marked. -/
def unmarked {α : Type} (xs : List (Bool × α)) : List α := (xs.filter fun x => !x.1).map Prod.snd

@[simp] theorem unmarked_cons_true {α : Type} (a : α) (xs : List (Bool × α)) :
    unmarked ((true, a) :: xs) = unmarked xs := rfl

@[simp] theorem unmarked_cons_false {α : Type} (a : α) (xs : List (Bool × α)) :
    unmarked ((false, a) :: xs) = a :: unmarked xs := rfl

/-- The marked steps of a session are attempts at times when no settings load. -/
def Padded : Service → List (Bool × Step) → Prop
  | _, [] => True
  | s, (marked, step) :: steps =>
    (marked → (∃ ps, s.CannotLoad ps) ∧ step.IsAttempt s) ∧ Padded (step.run s).service steps

/-- **The failed attempts of a session leave no trace.** Without them it ends with the same service, and the other steps
get the same replies. -/
theorem run_of_padded {steps : List (Bool × Step)} (h : Padded s steps) :
    after s (steps.map Prod.snd) = after s (unmarked steps) ∧
      unmarked ((steps.map Prod.fst).zip (run s (steps.map Prod.snd)).1) = (run s (unmarked steps)).1 := by
  induction steps generalizing s with
  | nil => exact ⟨rfl, rfl⟩
  | cons x steps ih =>
    obtain ⟨marked, step⟩ := x
    obtain ⟨hmarked, hrest⟩ := h
    obtain ⟨hafter, hreplies⟩ := ih hrest
    cases marked with
    | false =>
      rw [unmarked_cons_false]
      exact ⟨hafter, congrArg (List.cons (step.run s).result) hreplies⟩
    | true =>
      obtain ⟨⟨ps, hload⟩, ha⟩ := hmarked rfl
      have hsame : (step.run s).service = s := (Step.run_of_cannotLoad hload ha).2
      rw [unmarked_cons_true]
      rw [hsame] at hafter hreplies
      refine ⟨?_, ?_⟩
      · rw [List.map_cons, after_cons, hsame]
        exact hafter
      · rw [List.map_cons, List.map_cons, run, hsame]
        exact hreplies

/-- However many attempts fail one after the other, the service stays as it was. -/
theorem after_of_attempts {attempts : List Step} (h : s.CannotLoad ps) (ha : ∀ x ∈ attempts, x.IsAttempt s) :
    after s attempts = s := by
  induction attempts with
  | nil => rfl
  | cons x attempts ih =>
    rw [after_cons, (Step.run_of_cannotLoad h (ha x List.mem_cons_self)).2]
    exact ih fun y hy => ha y (List.mem_cons_of_mem _ hy)

/-! ## No trace -/

/-- **Settings that do not load leave no trace.** Let no settings be kept, and let those of the environment not load.

- Every attempt to load them fails, and so does every attempt to obtain shared directories that are not there yet. It
  leaves the service as it was, and if it comes to the settings it tells what is wrong with them or fails inside.
- Steps of a session that are such attempts may be left out: the session ends with the same service, and the other steps
  get the same replies.
- After any number of attempts, in an environment whose settings load, these are obtained at once, and new directories
  are made for them unless there are some. Each attempt works with these, but for a start with a name of a log level
  that cannot be used. -/
theorem failedLoads_leave_no_trace :
    (∀ (s : Service) (ps : List Problem), s.CannotLoad ps →
      s.obtainSettings = (.error ps, s) ∧ s.configureLogging = (.error (.settings ps), s) ∧ s.launch = (.error ps, s) ∧
      (∀ step : Step, step.IsAttempt s →
        (step.run s).result.isFailure ∧ (step.run s).service = s ∧
          (step.reads s → (step.run s).result = step.refusedWith ps)) ∧
      ∀ (σ : Type) (builder : Builder σ) (options : OptionMap) (table : Given Table) (index : Given Index),
        s.shared? = none → options.raw .directoryPath = none →
        (∃ e, (s.resolve .shared builder options table index).result = .error e) ∧
          (s.resolve .shared builder options table index).service = s) ∧
    (∀ (s : Service) (steps : List (Bool × Step)), Padded s steps →
      after s (steps.map Prod.snd) = after s (unmarked steps) ∧
        unmarked ((steps.map Prod.fst).zip (run s (steps.map Prod.snd)).1) = (run s (unmarked steps)).1) ∧
    ∀ (s : Service) (ps : List Problem) (attempts : List Step) (environment : Entries Text) (envFile : Option Text)
      (v : Settings), s.CannotLoad ps → (∀ x ∈ attempts, x.IsAttempt s) →
      Settings.load environment envFile = .ok v →
      let repaired : Service := { after s attempts with environment, envFile }
      repaired.obtainSettings.1 = .ok v ∧
      repaired.obtainDirectories.result = .ok (s.directoriesFor v) ∧
      (Step.readSettings.run repaired).result = .settings (.ok v) ∧
      (Step.start.run repaired).result =
        .started (((LogLevel.ofName v.logLevel).map fun _ => ()).mapError .logLevel) ∧
      ∀ step : Step, step.onlyAsks → step.IsAttempt s →
        (step.run repaired).result = step.replyWith s.depth (s.directoriesFor v) := by
  refine ⟨fun s ps h => ⟨obtainSettings_of_cannotLoad h, configureLogging_of_cannotLoad h, launch_of_cannotLoad h,
    fun step ha => ?_,
      fun σ builder options table index hs hraw => resolve_of_cannotLoad h hs hraw builder table index⟩,
    fun s steps h => run_of_padded h, ?_⟩
  · obtain ⟨hfails, hservice⟩ := Step.run_of_cannotLoad h ha
    exact ⟨hfails, hservice, Step.result_run_of_cannotLoad h ha⟩
  · intro s ps attempts environment envFile v h ha hload
    rw [after_of_attempts h ha]
    intro repaired
    have hsettings : repaired.obtainSettings.1 = .ok v := obtainSettings_eq_ok_iff.mpr (Or.inr ⟨h.unloaded, hload⟩)
    have hdirectories : repaired.obtainDirectories.result = .ok (s.directoriesFor v) :=
      obtainDirectories_of_settings hsettings
    refine ⟨hsettings, hdirectories, congrArg Reply.settings hsettings,
      congrArg Reply.started (start_of_loaded hsettings),
      fun step honly hattempt => Step.result_run_of_attempt honly ?_ hdirectories⟩
    cases step with
    | obtainDirectories | resolve | resolveStored | request => exact hattempt
    | _ => cases honly

/-- A step that gives the port in the environment. -/
def setPort (port : Text) : Step := .setVariables [("PORT", some port)]

/-- A service whose environment gives a port that is no number. -/
def wordyPort : Service := after Service.initial [setPort "none"]

/-- Settings and directories are asked for in vain, and the service then starts with another port as if they had not
been. -/
theorem failedLoads_leave_no_trace_wordyPort :
    ∃ ps, wordyPort.CannotLoad ps ∧ wordyPort.obtainSettings = (.error ps, wordyPort) ∧
      unmarked ([true, true, false, false].zip
          (run wordyPort [.readSettings, .obtainDirectories, setPort "8080", .start]).1) =
        (run wordyPort [setPort "8080", .start]).1 ∧
      Settings.load [("PORT", "8080")] none = .ok { Settings.defaults with port := 8080 } ∧
      (Step.start.run { after wordyPort [.readSettings, .obtainDirectories] with
        environment := [("PORT", "8080")], envFile := none }).result = .started (.ok ()) := by
  obtain ⟨hfailing, hpadded, hrepaired⟩ := failedLoads_leave_no_trace
  have hload : Settings.load [("PORT", "8080")] none = .ok { Settings.defaults with port := 8080 } :=
    toOption_eq_some_iff.mp (by decide +kernel)
  have hwordy : (Settings.load wordyPort.environment wordyPort.envFile).isOk = false := by decide +kernel
  cases h : Settings.load wordyPort.environment wordyPort.envFile with
  | ok v =>
    rw [h] at hwordy
    cases hwordy
  | error ps =>
    have hcannot : wordyPort.CannotLoad ps := ⟨by decide +kernel, h⟩
    have hshared : wordyPort.shared? = none := by decide +kernel
    have hattempts : ∀ x ∈ [Step.readSettings, .obtainDirectories], x.IsAttempt wordyPort := by
      intro x hx
      simp only [List.mem_cons, List.not_mem_nil, or_false] at hx
      rcases hx with rfl | rfl
      · trivial
      · exact hshared
    have hmarked : Padded wordyPort
        [(true, .readSettings), (true, .obtainDirectories), (false, setPort "8080"), (false, .start)] := by
      refine ⟨fun _ => ⟨⟨ps, hcannot⟩, trivial⟩, ?_⟩
      rw [(Step.run_of_cannotLoad hcannot (hattempts _ (by simp))).2]
      exact ⟨fun _ => ⟨⟨ps, hcannot⟩, hshared⟩, nofun, nofun, trivial⟩
    obtain ⟨-, -, -, hstart, -⟩ := hrepaired wordyPort ps _ _ _ _ hcannot hattempts hload
    exact ⟨ps, hcannot, (hfailing wordyPort ps hcannot).1, (hpadded _ _ hmarked).2, hload, hstart⟩

end Session

end IndexOptions
