import IndexOptions.Proofs.Reordered
import IndexOptions.Proofs.ServiceCaches

/-!
# Setting up the log

A set-up of the log takes its level from the settings of the moment, and needs nothing but settings that load and the
name of a level.

- `LogLevel.names_or_word_or_other`: a text names a level, or is one of two words that name other things of the log, or
  names nothing and is taken for the level of information;
- `Service.configureLogging_completes_iff`: a set-up with settings at hand fails exactly at the two words.
-/

namespace IndexOptions

namespace LogLevel

variable {t : Text} {level : Nat} {m : Misnamed}

/-! ## The names of levels -/

/-- A text is the name of a level, in any case. -/
def Names (t : Text) (level : Nat) : Prop := (t.capitals, level) ∈ named

instance : Decidable (Names t level) := inferInstanceAs (Decidable (_ ∈ named))

/-- The word that names another thing of the log. -/
def Misnamed.word : Misnamed → Text
  | format => "BASIC_FORMAT"
  | styles => "_STYLES"

theorem lookup_named_eq_some_iff : named.lookup t.capitals = some level ↔ Names t level := by
  have hdistinct : (Entries.keys named).Nodup := by decide
  exact Entries.get?_eq_some_iff hdistinct

theorem ofName_of_names (h : Names t level) : ofName t = .ok level := by
  unfold ofName
  dsimp only
  rw [lookup_named_eq_some_iff.mpr h]

theorem lookup_named_of_word (h : t.capitals = m.word) : named.lookup t.capitals = none := by
  rw [h]
  cases m <;> decide

/-- The two words are the names of no levels. -/
theorem not_names_of_word (h : t.capitals = m.word) (level : Nat) : ¬Names t level := by
  intro hnames
  rw [← lookup_named_eq_some_iff, lookup_named_of_word h] at hnames
  cases hnames

theorem ofName_of_word (h : t.capitals = m.word) : ofName t = .error m := by
  have hnone := lookup_named_of_word h
  unfold ofName
  dsimp only
  rw [hnone, h]
  cases m <;> rfl

theorem ofName_of_other (hnames : ∀ l, ¬Names t l) (hwords : ∀ m : Misnamed, t.capitals ≠ m.word) :
    ofName t = .ok info := by
  have hnone : named.lookup t.capitals = none :=
    Option.eq_none_iff_forall_ne_some.mpr fun l hl => hnames l (lookup_named_eq_some_iff.mp hl)
  have hformat : t.capitals ≠ Text.ofString "BASIC_FORMAT" := hwords .format
  have hstyles : t.capitals ≠ Text.ofString "_STYLES" := hwords .styles
  unfold ofName
  dsimp only
  rw [hnone]
  dsimp only
  rw [if_neg hformat, if_neg hstyles]

/-- A text is the name of a level, or one of the two words, or neither. -/
theorem names_or_word_or_other (t : Text) :
    (∃ level, Names t level) ∨ (∃ m : Misnamed, t.capitals = m.word) ∨
      ((∀ level, ¬Names t level) ∧ ∀ m : Misnamed, t.capitals ≠ m.word) := by
  by_cases hnames : ∃ level, Names t level
  · exact Or.inl hnames
  · by_cases hword : ∃ m : Misnamed, t.capitals = m.word
    · exact Or.inr (Or.inl hword)
    · exact Or.inr (Or.inr ⟨not_exists.mp hnames, not_exists.mp hword⟩)

end LogLevel

namespace Service

open LogLevel (Misnamed)

variable {s t : Service} {v : Settings} {level : Nat} {m : Misnamed}

/-! ## One set-up -/

theorem configureLogging_of_level (hv : s.obtainSettings.1 = .ok v) (hlevel : LogLevel.ofName v.logLevel = .ok level) :
    s.configureLogging = (.ok (), { s with settings? := some v, logging := s.logging.configured level }) := by
  unfold configureLogging
  rw [obtainSettings_eq, hv]
  dsimp only
  rw [LogSetup.configure, hlevel]
  rfl

/-- A set-up that fails at the name of the level leaves the log as it was. -/
theorem configureLogging_of_misnamed (hv : s.obtainSettings.1 = .ok v)
    (hlevel : LogLevel.ofName v.logLevel = .error m) :
    s.configureLogging = (.error (.logLevel m), { s with settings? := some v }) := by
  unfold configureLogging
  rw [obtainSettings_eq, hv]
  dsimp only
  rw [LogSetup.configure, hlevel]
  rfl

/-- A set-up that succeeds had settings whose name of a level is one. -/
theorem exists_level_of_configureLogging (h : s.configureLogging = (.ok (), t)) :
    ∃ v level, s.obtainSettings.1 = .ok v ∧ LogLevel.ofName v.logLevel = .ok level ∧
      t = { s with settings? := some v, logging := s.logging.configured level } := by
  obtain ⟨v, hv⟩ := exists_settings_of_configureLogging (s := s) (by rw [h]; rfl)
  cases hlevel : LogLevel.ofName v.logLevel with
  | ok level =>
    rw [configureLogging_of_level hv hlevel] at h
    cases h
    exact ⟨v, level, hv, hlevel, rfl⟩
  | error m =>
    rw [configureLogging_of_misnamed hv hlevel] at h
    cases h

/-- **Two words are no names for a level.** With settings at hand a set-up of the log completes, unless the name of the
level is one of two words that name other things of the log. Then the root and its one handler have the level that is
named, in any case, or that for information if none is. At the two words the set-up fails and leaves the log as it
was. -/
theorem configureLogging_completes_iff (hv : s.obtainSettings.1 = .ok v) :
    (s.configureLogging.1 = .ok () ↔ ∀ m : Misnamed, v.logLevel.capitals ≠ m.word) ∧
      (∀ level, LogLevel.Names v.logLevel level → s.configureLogging.1 = .ok () ∧
        s.configureLogging.2.logging.root = level ∧ s.configureLogging.2.logging.handlers = [⟨level, true⟩]) ∧
      ((∀ level, ¬LogLevel.Names v.logLevel level) → (∀ m : Misnamed, v.logLevel.capitals ≠ m.word) →
        s.configureLogging.1 = .ok () ∧ s.configureLogging.2.logging.root = LogLevel.info ∧
          s.configureLogging.2.logging.handlers = [⟨LogLevel.info, true⟩]) ∧
      ∀ m : Misnamed, v.logLevel.capitals = m.word →
        s.configureLogging.1 = .error (.logLevel m) ∧ s.configureLogging.2.logging = s.logging := by
  refine ⟨⟨fun h m hword => ?_, fun hwords => ?_⟩, fun level hnames => ?_, fun hnames hwords => ?_, fun m hword => ?_⟩
  · rw [configureLogging_of_misnamed hv (LogLevel.ofName_of_word hword)] at h
    cases h
  · rcases LogLevel.names_or_word_or_other v.logLevel with ⟨level, hnames⟩ | ⟨m, hword⟩ | ⟨hnames, -⟩
    · rw [configureLogging_of_level hv (LogLevel.ofName_of_names hnames)]
    · exact absurd hword (hwords m)
    · rw [configureLogging_of_level hv (LogLevel.ofName_of_other hnames hwords)]
  · rw [configureLogging_of_level hv (LogLevel.ofName_of_names hnames)]
    exact ⟨rfl, rfl, rfl⟩
  · rw [configureLogging_of_level hv (LogLevel.ofName_of_other hnames hwords)]
    exact ⟨rfl, rfl, rfl⟩
  · rw [configureLogging_of_misnamed hv (LogLevel.ofName_of_word hword)]
    exact ⟨rfl, rfl⟩

/-- A service whose environment gives a name for the level of the log. -/
def levelNamed (name : Text) : Service := { initial with environment := [("LOG_LEVEL", name)] }

/-- Every text is taken for the name of the level. -/
theorem obtainSettings_levelNamed (name : Text) :
    (levelNamed name).obtainSettings.1 = .ok { Settings.defaults with logLevel := name } := by
  have hlower : Text.lower "LOG_LEVEL" = "log_level" := by decide +kernel
  have hlook : Settings.textFor [("LOG_LEVEL", name)] [] = fun field =>
      if Text.ofString "log_level" = field then some name else none := by
    funext field
    by_cases hfield : Text.ofString "log_level" = field <;>
      simp [Settings.textFor, Settings.lastMatch, hlower, hfield]
  have hload : Settings.load [("LOG_LEVEL", name)] none = .ok { Settings.defaults with logLevel := name } := by
    rw [Settings.load, Settings.fileVariables, hlook]
    rfl
  exact obtainSettings_eq_ok_iff.mpr (Or.inr ⟨rfl, hload⟩)

/-- A level in mixed case is a level. -/
theorem configureLogging_completes_iff_mixedCase :
    (∃ v, (levelNamed "wArn").obtainSettings.1 = .ok v ∧ LogLevel.Names v.logLevel 30) ∧
      (levelNamed "wArn").configureLogging.1 = .ok () ∧
      (levelNamed "wArn").configureLogging.2.logging.handlers = [⟨30, true⟩] := by
  have hv := obtainSettings_levelNamed "wArn"
  have hnames : LogLevel.Names (Text.ofString "wArn") 30 := by decide
  obtain ⟨-, hlevels, -, -⟩ := configureLogging_completes_iff hv
  obtain ⟨hdone, -, hhandlers⟩ := hlevels 30 hnames
  exact ⟨⟨_, hv, hnames⟩, hdone, hhandlers⟩

/-- **Not every text that the settings take can be used**: the log is not set up where the level is given by the word
for the format of lines or by that for the styles of formats, which name no levels. -/
theorem configureLogging_refuses_words :
    ((∃ v, (levelNamed "basic_format").obtainSettings.1 = .ok v ∧ ∀ level, ¬LogLevel.Names v.logLevel level) ∧
      (levelNamed "basic_format").configureLogging.1 = .error (.logLevel .format)) ∧
    (∃ v, (levelNamed "_styles").obtainSettings.1 = .ok v ∧ ∀ level, ¬LogLevel.Names v.logLevel level) ∧
      (levelNamed "_styles").configureLogging.1 = .error (.logLevel .styles) := by
  have hformat : (Text.ofString "basic_format").capitals = Misnamed.format.word := by decide
  have hstyles : (Text.ofString "_styles").capitals = Misnamed.styles.word := by decide
  have hv := obtainSettings_levelNamed "basic_format"
  have hw := obtainSettings_levelNamed "_styles"
  refine ⟨⟨⟨_, hv, LogLevel.not_names_of_word hformat⟩, ?_⟩, ⟨_, hw, LogLevel.not_names_of_word hstyles⟩, ?_⟩
  · rw [configureLogging_of_misnamed hv (LogLevel.ofName_of_word hformat)]
  · rw [configureLogging_of_misnamed hw (LogLevel.ofName_of_word hstyles)]

end Service

end IndexOptions
