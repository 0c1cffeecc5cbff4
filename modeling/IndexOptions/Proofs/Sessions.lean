import IndexOptions.Proofs.Steps
import Mathlib.Data.List.Induction

/-!
# What a service keeps over a session

A session takes steps one after the other (`Session.run`). The settings and the shared directories that the service
keeps are two cells of the same kind (`Cell`): some steps fill the cell when it is empty, some steps empty it, and no
step changes what is in it (`Cell.law`). Two facts about whole sessions follow by induction, once for both cells:

- `Cell.value_after_of_kept`: what is in a cell stays there until a step empties it;
- `Cell.exists_firstFill`: what is in a cell was put there by the first step that filled it since it was last emptied.

`caches_coherent` reads them together: the directories that the steps of a session obtain are one object between two
drops, they belong to the settings that were kept when the object was made, and settings that are kept are those of the
environment in which they were first read after they were last cleared.
-/

namespace IndexOptions.Session

open Service

/-! ## Sessions -/

/-- The service after the steps of a session. -/
def after (s : Service) (steps : List Step) : Service := (run s steps).2

@[simp] theorem after_nil (s : Service) : after s [] = s := rfl

@[simp] theorem after_cons (s : Service) (step : Step) (steps : List Step) :
    after s (step :: steps) = after (step.run s).service steps := rfl

@[simp] theorem after_append (s : Service) (earlier later : List Step) :
    after s (earlier ++ later) = after (after s earlier) later := by
  induction earlier generalizing s with
  | nil => rfl
  | cons step earlier ih => exact ih _

/-- No session moves the service or changes its stack. -/
theorem surroundings_after (s : Service) (steps : List Step) :
    (after s steps).workingDirectory = s.workingDirectory ∧ (after s steps).depth = s.depth := by
  induction steps generalizing s with
  | nil => exact ⟨rfl, rfl⟩
  | cons step steps ih =>
    obtain ⟨hworking, hdepth⟩ := Step.surroundings_run s step
    obtain ⟨hworking', hdepth'⟩ := ih (step.run s).service
    exact ⟨hworking'.trans hworking, hdepth'.trans hdepth⟩

/-! ## Cells -/

/-- A part of the service that is empty or filled: `fill` tells what a step puts into it if it is empty, and some steps
empty it. -/
structure Cell (α : Type) where
  value : Service → Option α
  fill : Service → Step → Option α
  empties : Step → Bool
  law : ∀ s step, value (step.run s).service = if empties step then none else (value s).or (fill s step)

namespace Cell

variable {α : Type} {c : Cell α} {s : Service} {a : α} {step : Step} {steps : List Step}

/-- What is in a cell stays there until a step empties it. -/
theorem value_after_of_kept (hs : c.value s = some a) (hkept : ∀ x ∈ steps, c.empties x = false) :
    c.value (after s steps) = some a := by
  induction steps generalizing s with
  | nil => exact hs
  | cons step steps ih =>
    refine ih ?_ fun x hx => hkept x (List.mem_cons_of_mem _ hx)
    rw [c.law, hkept step List.mem_cons_self, hs]
    rfl

/-- No step of a list empties the cell or puts anything into it. -/
def Idle (c : Cell α) : Service → List Step → Prop
  | _, [] => True
  | s, step :: steps => c.empties step = false ∧ c.fill s step = none ∧ c.Idle (step.run s).service steps

theorem idle_append {xs ys : List Step} : c.Idle s (xs ++ ys) ↔ c.Idle s xs ∧ c.Idle (after s xs) ys := by
  induction xs generalizing s with
  | nil => simp [Idle]
  | cons x xs ih => simp [Idle, ih, and_assoc]

/-- A cell stays empty while nothing is put into it. -/
theorem value_after_of_idle (hs : c.value s = none) (h : c.Idle s steps) : c.value (after s steps) = none := by
  induction steps generalizing s with
  | nil => exact hs
  | cons step steps ih =>
    obtain ⟨hkept, hfill, hidle⟩ := h
    refine ih ?_ hidle
    rw [c.law, hkept, hs, hfill]
    rfl

/-- A list of steps begins the session, or its last step empties the cell. -/
def Emptied (c : Cell α) (start : List Step) : Prop := start = [] ∨ ∃ earlier x, start = earlier ++ [x] ∧ c.empties x

theorem value_after_of_emptied {start : List Step} (hs : c.value s = none) (h : c.Emptied start) :
    c.value (after s start) = none := by
  rcases h with rfl | ⟨earlier, x, rfl, hx⟩
  · exact hs
  · rw [after_append, after_cons, after_nil, c.law, hx, if_pos rfl]

/-- A step puts `a` into a cell: it is the first one to do so after the steps `start`, with which the cell was last
emptied, since the steps `idle` between do not, and no later step empties the cell. -/
structure FirstFill (c : Cell α) (s : Service) (start idle : List Step) (step : Step) (later : List Step) (a : α) :
    Prop where
  emptied : c.Emptied start
  unfilled : c.Idle (after s start) idle
  filled : c.fill (after s (start ++ idle)) step = some a
  kept : ∀ x ∈ step :: later, c.empties x = false

/-- The cell is empty right before it is filled. -/
theorem FirstFill.value_eq_none {start idle later : List Step} (hs : c.value s = none)
    (h : c.FirstFill s start idle step later a) : c.value (after s (start ++ idle)) = none := by
  rw [after_append]
  exact value_after_of_idle (value_after_of_emptied hs h.emptied) h.unfilled

/-- A cell that is empty has been left idle since it was last emptied. -/
theorem exists_idle (h : c.value (after s steps) = none) :
    ∃ start idle, steps = start ++ idle ∧ c.Emptied start ∧ c.Idle (after s start) idle := by
  induction steps using List.reverseRecOn with
  | nil => exact ⟨[], [], rfl, Or.inl rfl, trivial⟩
  | append_singleton steps x ih =>
    cases hx : c.empties x with
    | true => exact ⟨steps ++ [x], [], (List.append_nil _).symm, Or.inr ⟨steps, x, rfl, hx⟩, trivial⟩
    | false =>
      rw [after_append, after_cons, after_nil, c.law, hx] at h
      obtain ⟨hvalue, hfill⟩ := Option.or_eq_none_iff.mp h
      obtain ⟨start, idle, rfl, hstart, hidle⟩ := ih hvalue
      refine ⟨start, idle ++ [x], List.append_assoc _ _ _, hstart, idle_append.mpr ⟨hidle, hx, ?_, trivial⟩⟩
      rwa [after_append] at hfill

/-- What is in a cell was put there by the first step that filled it since it was last emptied. -/
theorem exists_firstFill (hs : c.value s = none) (h : c.value (after s steps) = some a) :
    ∃ start idle step later, steps = start ++ idle ++ step :: later ∧ c.FirstFill s start idle step later a := by
  induction steps using List.reverseRecOn with
  | nil =>
    rw [after_nil, hs] at h
    cases h
  | append_singleton steps x ih =>
    rw [after_append, after_cons, after_nil, c.law] at h
    cases hx : c.empties x with
    | true =>
      rw [hx, if_pos rfl] at h
      cases h
    | false =>
      rw [hx, if_neg Bool.false_ne_true] at h
      cases hvalue : c.value (after s steps) with
      | none =>
        rw [hvalue, Option.none_or] at h
        obtain ⟨start, idle, rfl, hstart, hidle⟩ := exists_idle hvalue
        exact ⟨start, idle, x, [], rfl, hstart, hidle, h, by simpa using hx⟩
      | some b =>
        rw [hvalue, Option.some_or] at h
        obtain ⟨start, idle, step, later, rfl, hfill⟩ := ih (hvalue.trans h)
        refine ⟨start, idle, step, later ++ [x], by simp, hfill.emptied, hfill.unfilled, hfill.filled, ?_⟩
        intro y hy
        rcases List.mem_append.mp (List.cons_append ▸ hy) with hy | hy
        · exact hfill.kept y hy
        · rwa [List.mem_singleton.mp hy]

end Cell

/-! ## The two cells -/

/-- The settings that are kept. -/
def settingsCell : Cell Settings where
  value := Service.settings?
  fill s step := step.settings? s
  empties := Step.clears
  law := Step.settings?_run

/-- The shared directories that are kept. -/
def directoriesCell : Cell SharedDirectories where
  value := Service.shared?
  fill s step := step.obtained? s
  empties := Step.drops
  law := Step.shared?_run

variable {s : Service} {steps : List Step} {o o' : SharedDirectories} {v : Settings}

/-- The directories that are kept were made with the settings that were kept then. -/
theorem exists_making (hs : s.shared? = none) (h : (after s steps).shared? = some o) :
    ∃ start idle step later v, steps = start ++ idle ++ step :: later ∧
      directoriesCell.FirstFill s start idle step later o ∧ (after s (start ++ idle ++ [step])).settings? = some v ∧
      o.directories = Directories.ofText s.workingDirectory.path v.dataDirectory := by
  obtain ⟨start, idle, step, later, rfl, hfill⟩ := directoriesCell.exists_firstFill hs h
  have hempty : (after s (start ++ idle)).shared? = none := hfill.value_eq_none hs
  obtain ⟨v, hv, rfl⟩ := Step.exists_settings_of_made hempty hfill.filled
  refine ⟨start, idle, step, later, v, rfl, hfill, ?_, by rw [(surroundings_after _ _).1]⟩
  rwa [after_append, after_cons, after_nil]

/-- The settings that are kept are those of the environment in which they were read. -/
theorem exists_reading (hs : s.settings? = none) (h : (after s steps).settings? = some v) :
    ∃ start idle step later, steps = start ++ idle ++ step :: later ∧
      settingsCell.FirstFill s start idle step later v ∧
      Settings.load (after s (start ++ idle)).environment (after s (start ++ idle)).envFile = .ok v := by
  obtain ⟨start, idle, step, later, rfl, hfill⟩ := settingsCell.exists_firstFill hs h
  have hempty : (after s (start ++ idle)).settings? = none := hfill.value_eq_none hs
  exact ⟨start, idle, step, later, rfl, hfill, Step.load_of_read hempty hfill.filled⟩

/-- While settings are kept, new directories belong to them. -/
theorem directories_of_kept_settings (hv : s.settings? = some v) (hkept : ∀ x ∈ steps, x.clears = false)
    (h : (after s steps).shared? = some o) :
    s.shared? = some o ∨ o.directories = Directories.ofText s.workingDirectory.path v.dataDirectory := by
  induction steps using List.reverseRecOn generalizing o with
  | nil => exact Or.inl h
  | append_singleton steps x ih =>
    have hearlier : ∀ y ∈ steps, y.clears = false := fun y hy => hkept y (List.mem_append_left _ hy)
    rw [after_append, after_cons, after_nil, Step.shared?_run] at h
    split at h
    · cases h
    · cases hshared : (after s steps).shared? with
      | some o' =>
        rw [hshared, Option.some_or, Option.some.injEq] at h
        exact h ▸ ih hearlier hshared
      | none =>
        rw [hshared, Option.none_or] at h
        obtain ⟨u, hu, rfl⟩ := Step.exists_settings_of_made hshared h
        have hsame : (after s (steps ++ [x])).settings? = some v := settingsCell.value_after_of_kept hv hkept
        rw [after_append, after_cons, after_nil, hu, Option.some.injEq] at hsame
        exact Or.inr (by rw [hsame, (surroundings_after _ _).1])

/-! ## Serial numbers -/

/-- The serial numbers of the directories that are kept or will be made start from `n`. -/
def NumberedFrom (n : Nat) (s : Service) : Prop :=
  n ≤ s.made ∧ ∀ o, s.shared? = some o → n ≤ o.serial ∧ o.serial < s.made

theorem made_le_run (s : Service) (step : Step) : s.made ≤ (step.run s).service.made := by
  rw [Step.made_run]
  split
  · exact Nat.le_succ _
  · exact Nat.le_refl _

theorem made_le_after (s : Service) (steps : List Step) : s.made ≤ (after s steps).made := by
  induction steps generalizing s with
  | nil => exact Nat.le_refl _
  | cons step steps ih => exact (made_le_run s step).trans (ih _)

theorem numberedFrom_run {n : Nat} (h : NumberedFrom n s) (step : Step) : NumberedFrom n (step.run s).service := by
  obtain ⟨hmade, hkept⟩ := h
  have hle := made_le_run s step
  refine ⟨hmade.trans hle, ?_⟩
  intro o ho
  rw [Step.shared?_run] at ho
  split at ho
  · cases ho
  · cases hs : s.shared? with
    | some o' =>
      rw [hs, Option.some_or, Option.some.injEq] at ho
      obtain ⟨hn, hlt⟩ := hkept o (ho ▸ hs)
      exact ⟨hn, hlt.trans_le hle⟩
    | none =>
      rw [hs, Option.none_or] at ho
      have hnew : (step.run s).service.made = s.made + 1 := by
        rw [Step.made_run, hs, ho]
        rfl
      obtain ⟨v, -, rfl⟩ := Step.exists_settings_of_made hs ho
      exact ⟨hmade, hnew ▸ Nat.lt_succ_self _⟩

theorem numberedFrom_after {n : Nat} (h : NumberedFrom n s) (steps : List Step) : NumberedFrom n (after s steps) := by
  induction steps generalizing s with
  | nil => exact h
  | cons step steps ih => exact ih (numberedFrom_run h step)

/-- Directories that are made after a drop are another object. -/
theorem serial_lt_of_dropped {between : List Step} {b : Step} (hs : NumberedFrom 0 s) (ho : s.shared? = some o)
    (hdrop : ∃ x ∈ between, x.drops) (hb : b.obtained? (after s between) = some o') : o.serial < o'.serial := by
  obtain ⟨x, hx, hdrops⟩ := hdrop
  obtain ⟨before, behind, rfl⟩ := List.append_of_mem hx
  have hdropped : NumberedFrom s.made (x.run (after s before)).service := by
    refine ⟨(made_le_after s before).trans (made_le_run _ x), ?_⟩
    intro o ho
    rw [Step.shared?_run, hdrops, if_pos rfl] at ho
    cases ho
  have hlater := numberedFrom_run (numberedFrom_after hdropped behind) b
  rw [after_append, after_cons] at hb
  exact (hs.2 o ho).2.trans_le (hlater.2 o' (Step.shared?_run_of_obtained hb)).1

/-- Two steps obtain the same directories exactly if none between them drops these. -/
theorem obtained_eq_iff (hs : s.shared? = none) {earlier between : List Step} {a b : Step}
    (ha : a.obtained? (after s earlier) = some o) (hb : b.obtained? (after s (earlier ++ a :: between)) = some o') :
    o' = o ↔ ∀ x ∈ between, x.drops = false := by
  have hkept : (a.run (after s earlier)).service.shared? = some o := Step.shared?_run_of_obtained ha
  rw [after_append, after_cons] at hb
  constructor
  · intro heq
    by_contra hdrop
    have hnumbered : NumberedFrom 0 s := ⟨Nat.zero_le _, fun o ho => by rw [hs] at ho; cases ho⟩
    have hlt := serial_lt_of_dropped (numberedFrom_run (numberedFrom_after hnumbered earlier) a) hkept
      (by simpa using hdrop) hb
    rw [heq] at hlt
    exact Nat.lt_irrefl _ hlt
  · intro hnone
    have hsame : (after (a.run (after s earlier)).service between).shared? = some o :=
      directoriesCell.value_after_of_kept hkept hnone
    obtain ⟨-, hresult⟩ := Step.obtained?_eq_some_iff.mp hb
    rw [obtainDirectories_of_kept hsame] at hresult
    exact (Except.ok.inj hresult).symm

/-! ## Coherence -/

/-- **The two caches are coherent over every session** that begins with both empty.

- Two steps obtain the same shared directories exactly if none between them drops these, whatever is done to the
  environment and the settings meanwhile.
- The directories that are kept were made at the first occasion since they were last dropped, and are those of the
  settings that were kept when they were made.
- The settings that are kept were read at the first occasion since they were last cleared, and are those of the
  environment at that time.
- So neither alone lets a change of the environment through: without a drop the directories stay, and without a clear
  all new directories are those of the settings that are kept.

What a step obtains is what it works with. -/
theorem caches_coherent (hsettings : s.settings? = none) (hshared : s.shared? = none) :
    (∀ (earlier between : List Step) (a b : Step) (o o' : SharedDirectories),
      a.obtained? (after s earlier) = some o → b.obtained? (after s (earlier ++ a :: between)) = some o' →
      (o' = o ↔ ∀ x ∈ between, x.drops = false)) ∧
    (∀ (steps : List Step) (o : SharedDirectories), (after s steps).shared? = some o →
      ∃ (start idle : List Step) (step : Step) (later : List Step) (v : Settings),
        steps = start ++ idle ++ step :: later ∧ directoriesCell.FirstFill s start idle step later o ∧
        (after s (start ++ idle ++ [step])).settings? = some v ∧
        o.directories = Directories.ofText s.workingDirectory.path v.dataDirectory) ∧
    (∀ (steps : List Step) (v : Settings), (after s steps).settings? = some v →
      ∃ (start idle : List Step) (step : Step) (later : List Step),
        steps = start ++ idle ++ step :: later ∧ settingsCell.FirstFill s start idle step later v ∧
        Settings.load (after s (start ++ idle)).environment (after s (start ++ idle)).envFile = .ok v) ∧
    (∀ (earlier steps : List Step) (o : SharedDirectories), (after s earlier).shared? = some o →
      (∀ x ∈ steps, x.drops = false) → (after s (earlier ++ steps)).shared? = some o) ∧
    (∀ (earlier steps : List Step) (v : Settings) (o : SharedDirectories), (after s earlier).settings? = some v →
      (∀ x ∈ steps, x.clears = false) → (after s (earlier ++ steps)).shared? = some o →
      (after s earlier).shared? = some o ∨
        o.directories = Directories.ofText s.workingDirectory.path v.dataDirectory) ∧
    ∀ (s : Service) (step : Step) (o : SharedDirectories), step.obtained? s = some o →
      (step.run s).result = step.replyWith s.depth o := by
  refine ⟨?_, fun _ _ => exists_making hshared, fun _ _ => exists_reading hsettings, ?_, ?_,
    fun _ _ _ => Step.result_run_of_obtained⟩
  · intro earlier between a b o o' ha hb
    exact obtained_eq_iff hshared ha hb
  · intro earlier steps o ho hkept
    rw [after_append]
    exact directoriesCell.value_after_of_kept ho hkept
  · intro earlier steps v o hv hkept ho
    rw [after_append] at ho
    rw [← (surroundings_after s earlier).1]
    exact directories_of_kept_settings hv hkept ho

/-- A step that names the data directory in the environment. -/
def moveData (directory : Text) : Step := .setVariables [("DATA_DIRECTORY", some directory)]

/-- The data directory is moved while the directories are shared: after the settings are cleared they are the same
object still, and after they are dropped they are another one in the new place. -/
theorem caches_coherent_movedData :
    ∃ o o', Step.obtainDirectories.obtained? (after Service.initial [moveData "one"]) = some o ∧
      o.directories = Directories.ofText (Path.parse "/") "one" ∧
      Step.obtainDirectories.obtained?
        (after Service.initial ([moveData "one"] ++ .obtainDirectories :: [moveData "/two", .clearSettings])) = some o ∧
      Step.obtainDirectories.obtained?
        (after Service.initial ([moveData "one"] ++ .obtainDirectories ::
          [moveData "/two", .clearSettings, .dropDirectories])) = some o' ∧
      o'.directories = Directories.ofText (Path.parse "/") "/two" ∧ o' ≠ o := by
  have hone : Step.obtainDirectories.obtained? (after Service.initial [moveData "one"]) =
      some ⟨0, Directories.ofText (Path.parse "/") "one"⟩ := by decide +kernel
  have hsame : Step.obtainDirectories.obtained?
      (after Service.initial ([moveData "one"] ++ .obtainDirectories :: [moveData "/two", .clearSettings])) =
      some ⟨0, Directories.ofText (Path.parse "/") "one"⟩ := by decide +kernel
  have htwo : Step.obtainDirectories.obtained?
      (after Service.initial ([moveData "one"] ++ .obtainDirectories ::
        [moveData "/two", .clearSettings, .dropDirectories])) =
      some ⟨1, Directories.ofText (Path.parse "/") "/two"⟩ := by decide +kernel
  refine ⟨_, _, hone, rfl, hsame, htwo, rfl, ?_⟩
  rw [ne_eq, (caches_coherent rfl rfl).1 _ _ _ _ _ _ hone htwo]
  decide

end IndexOptions.Session
