import IndexOptions.Options.Values

/-!
# What the values of options fail with

An option by itself fails with a rejection that names it. The one exception is an integer option with more digits than
are read (`OptionMap.Overlong`): it is not rejected, but ends the reading with the number of its digits.

- `integer_eq_error` and `integer_of_isOverlong`: the failures of a text for an integer;
- `positiveInteger_eq_error`, `indexingThreads_eq_error`, `refreshSeconds_eq_error`: the failures of an option;
- `pos_of_positiveInteger`, `refreshSeconds_eq_ok`: what a value that is given satisfies.
-/

namespace IndexOptions

namespace Numeral

/-! ## Overlong numerals -/

/-- The number of code points after an optional sign. -/
def digitCount (t : Text) : Nat := (Decimal.signed t).2.length

/-- An optional sign and more digits than are read. -/
def IsOverlong (t : Text) : Prop := (Decimal.signed t).2.all CodePoint.isDigit ∧ Document.maxDigits < digitCount t

instance : DecidablePred IsOverlong := fun _ => inferInstanceAs (Decidable (_ ∧ _))

/-- Only an overlong numeral is an error; other texts that are no integer are not. -/
theorem integer?_eq_error_iff {t : Text} {n : Nat} : integer? t = .error n ↔ IsOverlong t ∧ n = digitCount t := by
  unfold integer? IsOverlong digitCount
  generalize Decimal.signed t = signed
  obtain ⟨negative, digits⟩ := signed
  dsimp only
  by_cases hd : digits.isEmpty || !digits.all CodePoint.isDigit
  · have hn : ¬(digits.all CodePoint.isDigit ∧ Document.maxDigits < digits.length) := by
      rintro ⟨ha, hl⟩
      cases digits with
      | nil => exact absurd hl (Nat.not_lt_zero _)
      | cons c r => rw [ha] at hd; cases hd
    rw [if_pos hd]
    exact ⟨fun h => (by cases h), fun h => absurd h.1 hn⟩
  · have ha : digits.all CodePoint.isDigit := by
      simp only [Bool.or_eq_true, not_or, Bool.not_eq_true', Bool.not_eq_false] at hd
      exact hd.2
    rw [if_neg hd]
    by_cases hl : Document.maxDigits < digits.length
    · rw [if_pos hl, Except.error.injEq]
      exact ⟨fun h => ⟨⟨ha, hl⟩, h.symm⟩, fun h => h.2.symm⟩
    · rw [if_neg hl]
      exact ⟨fun h => (by cases h), fun h => absurd h.1.2 hl⟩

/-- A numeral with too many digits is an error before its size is looked at. -/
theorem word?_eq_error_iff {t : Text} {n : Nat} : word? t = .error n ↔ IsOverlong t ∧ n = digitCount t := by
  rw [← integer?_eq_error_iff, word?]
  cases integer? t <;> simp [Except.map]

/-- Digits without a sign are overlong if there are too many of them. -/
theorem isOverlong_replicate_one {n : Nat} (h : Document.maxDigits < n) : IsOverlong (List.replicate n '1') := by
  obtain ⟨k, rfl⟩ := Nat.exists_eq_add_of_lt h
  have hs : Decimal.signed (List.replicate (Document.maxDigits + k + 1) (CodePoint.ofChar '1')) =
      (false, List.replicate (Document.maxDigits + k + 1) (CodePoint.ofChar '1')) := by
    rw [List.replicate_succ, Decimal.signed, if_neg (by decide), if_neg (by decide)]
  refine ⟨?_, ?_⟩
  · rw [hs, List.all_replicate]
    simp
    decide
  · rw [digitCount, hs, List.length_replicate]
    exact h

end Numeral

namespace OptionName

/-- The options whose value is an integer. -/
def isInteger : OptionName → Bool
  | ramBufferMb | maxMergeMb | maxCachedMb | indexingThreads | indexingQueuesSize => true
  | refreshSeconds | excludedDataCenters | directoryPath | schema => false

end OptionName

namespace OptionMap

open Numeral (IsOverlong digitCount)

variable {options : OptionMap} {o : OptionName} {default : Int} {otherwise : Reason} {raw : Text} {e : ResolveError}

/-- An integer option is given with more digits than are read. -/
def Overlong (options : OptionMap) (o : OptionName) : Prop :=
  o.isInteger ∧ ∃ raw, options.raw o = some raw ∧ IsOverlong raw

/-! ## Failures -/

theorem integer_eq_error (h : integer o otherwise raw = .error e) :
    e = .rejected ⟨o, otherwise⟩ ∨ (IsOverlong raw ∧ e = .tooManyDigits (digitCount raw)) := by
  unfold integer at h
  split at h
  · cases h
  · cases h
    exact Or.inl rfl
  · next count hw =>
    cases h
    obtain ⟨ho, rfl⟩ := Numeral.word?_eq_error_iff.mp hw
    exact Or.inr ⟨ho, rfl⟩

/-- Too many digits are no rejection of an option. -/
theorem integer_of_isOverlong (h : IsOverlong raw) :
    integer o otherwise raw = .error (.tooManyDigits (digitCount raw)) := by
  unfold integer
  rw [Numeral.word?_eq_error_iff.mpr ⟨h, rfl⟩]

/-- An option that has to be positive fails with a rejection of its own, or with too many digits. -/
theorem positiveInteger_eq_error (h : options.positiveInteger o default = .error e) :
    (∃ reason, e = .rejected ⟨o, reason⟩) ∨
      ∃ raw, options.raw o = some raw ∧ IsOverlong raw ∧ e = .tooManyDigits (digitCount raw) := by
  unfold positiveInteger at h
  cases hr : options.raw o with
  | none => rw [hr] at h; cases h
  | some raw =>
    rw [hr] at h
    cases hi : integer o .notPositiveInteger raw with
    | error e' =>
      simp only [hi, bind, Except.bind] at h
      cases h
      rcases integer_eq_error hi with rfl | ⟨ho, rfl⟩
      · exact Or.inl ⟨_, rfl⟩
      · exact Or.inr ⟨raw, rfl, ho, rfl⟩
    | ok i =>
      simp only [hi, bind, Except.bind] at h
      split at h
      · cases h
      · cases h
        exact Or.inl ⟨_, rfl⟩

theorem positiveInteger_of_isOverlong (hr : options.raw o = some raw) (h : IsOverlong raw) :
    options.positiveInteger o default = .error (.tooManyDigits (digitCount raw)) := by
  unfold positiveInteger
  rw [hr]
  simp only [integer_of_isOverlong h, bind, Except.bind]

/-- So does the number of threads, which may be any integer. -/
theorem indexingThreads_eq_error (h : options.indexingThreads = .error e) :
    (∃ reason, e = .rejected ⟨.indexingThreads, reason⟩) ∨
      ∃ raw, options.raw .indexingThreads = some raw ∧ IsOverlong raw ∧ e = .tooManyDigits (digitCount raw) := by
  unfold indexingThreads at h
  cases hr : options.raw .indexingThreads with
  | none => rw [hr] at h; cases h
  | some raw =>
    rw [hr] at h
    rcases integer_eq_error h with rfl | ⟨ho, rfl⟩
    · exact Or.inl ⟨_, rfl⟩
    · exact Or.inr ⟨raw, rfl, ho, rfl⟩

theorem indexingThreads_of_isOverlong (hr : options.raw .indexingThreads = some raw) (h : IsOverlong raw) :
    options.indexingThreads = .error (.tooManyDigits (digitCount raw)) := by
  unfold indexingThreads
  rw [hr]
  exact integer_of_isOverlong h

/-- The seconds fail with rejections only. -/
theorem refreshSeconds_eq_error (h : options.refreshSeconds = .error e) :
    ∃ reason, e = .rejected ⟨.refreshSeconds, reason⟩ := by
  unfold refreshSeconds at h
  split at h
  · cases h
  · split at h
    · cases h
      exact ⟨_, rfl⟩
    · split at h
      · cases h
      · cases h
        exact ⟨_, rfl⟩

/-! ## Values -/

/-- A positive option is positive, by its check or by its default. -/
theorem pos_of_positiveInteger {i : Int} (hd : 0 < default) (h : options.positiveInteger o default = .ok i) :
    0 < i := by
  unfold positiveInteger at h
  cases hr : options.raw o with
  | none =>
    rw [hr] at h
    cases h
    exact hd
  | some raw =>
    rw [hr] at h
    cases hi : integer o .notPositiveInteger raw with
    | error e => simp only [hi, bind, Except.bind] at h; cases h
    | ok j =>
      simp only [hi, bind, Except.bind] at h
      split at h
      · next hj =>
        cases h
        exact hj
      · cases h

/-- The seconds between refreshes are a finite and positive number. -/
theorem refreshSeconds_eq_ok {x : Double} (h : options.refreshSeconds = .ok x) : x.isFinite ∧ x.isPositive := by
  unfold refreshSeconds at h
  split at h
  · cases h
    decide
  · split at h
    · cases h
    · next y hy =>
      split at h
      · next hp =>
        cases h
        exact ⟨(Option.filter_eq_some_iff.mp hy).2, hp⟩
      · cases h

end OptionMap

end IndexOptions
