import IndexOptions.Proofs.Configurations

/-!
# Lists of data centers

The text given for the data centers is trimmed and then cut at its commas. Nothing else is lost: a list of names is what
a text is read as exactly if it is written with commas, with nothing but blanks around it (`dataCenters_eq_iff`), so
texts that are trimmed and lists that can be written so are the same thing in two forms
(`excludedDataCenters_lossless`).

Trimming meets the first and the last name only. What stands between two commas is a name as it is, be it empty or blank
(`getElem?_dataCenters`).
-/

namespace IndexOptions.OptionMap

variable {options : OptionMap} {before behind name raw : Text} {names : List Text}

/-- A list of names that can be written: there is one, if only an empty one, none has a comma, and with commas between
them there is no blank at the ends. -/
structure IsCenterList (names : List Text) : Prop where
  ne_nil : names ≠ []
  comma_not_mem : ∀ name ∈ names, CodePoint.ofChar ',' ∉ name
  isTrimmed : (Text.join "," names).IsTrimmed

theorem isBlank_comma_eq_false : (CodePoint.ofChar ',').isBlank = false := by decide

/-! ## Reading and writing -/

/-- The names of a text are the only ones that are written so. -/
theorem dataCenters_eq_iff :
    dataCenters raw = names ↔ IsCenterList names ∧ Text.IsPadded (Text.join "," names) raw := by
  constructor
  · rintro rfl
    have hjoin : Text.join "," (dataCenters raw) = raw.trim := Text.join_splitOn _ _
    obtain ⟨htrimmed, hpadded⟩ := Text.eq_trim_iff.mp hjoin
    exact ⟨⟨dataCenters_ne_nil raw, fun _ => Text.not_mem_of_mem_splitOn, htrimmed⟩, hpadded⟩
  · rintro ⟨hnames, hpadded⟩
    have hjoin : Text.join "," names = raw.trim := Text.eq_trim_iff.mpr ⟨hnames.isTrimmed, hpadded⟩
    rw [dataCenters, ← hjoin]
    exact Text.splitOn_join hnames.ne_nil hnames.comma_not_mem

theorem dataCenters_of_isCenterList (h : IsCenterList names) : dataCenters (Text.join "," names) = names :=
  dataCenters_eq_iff.mpr ⟨h, [], [], by simp, by simp⟩

/-! ## Names where they stand -/

theorem count_comma_of_isBlank {t : Text} (h : ∀ c ∈ t, c.isBlank) : t.count (CodePoint.ofChar ',') = 0 := by
  refine List.count_eq_zero.mpr fun hmem => ?_
  have hblank := h _ hmem
  rw [isBlank_comma_eq_false] at hblank
  cases hblank

/-- No comma is lost with the blanks. -/
theorem count_comma_of_isPadded {body : Text} (h : Text.IsPadded body raw) :
    raw.count (CodePoint.ofChar ',') = body.count (CodePoint.ofChar ',') := by
  obtain ⟨before, behind, rfl, hblank⟩ := h
  obtain ⟨hbefore, hbehind⟩ := List.forall_mem_append.mp hblank
  rw [List.count_append, List.count_append, count_comma_of_isBlank hbefore, count_comma_of_isBlank hbehind,
    Nat.zero_add, Nat.add_zero]

theorem length_dataCenters (raw : Text) : (dataCenters raw).length = raw.count (CodePoint.ofChar ',') + 1 := by
  rw [dataCenters, Text.length_splitOn, count_comma_of_isPadded (Text.isPadded_trim raw)]

/-- What stands between two commas is a name as it is. -/
theorem getElem?_dataCenters (h : CodePoint.ofChar ',' ∉ name) :
    (dataCenters (before ++ CodePoint.ofChar ',' :: (name ++ CodePoint.ofChar ',' :: behind)))[
      before.count (CodePoint.ofChar ',') + 1]? = some name := by
  have htrim : Text.trim (before ++ CodePoint.ofChar ',' :: (name ++ CodePoint.ofChar ',' :: behind)) =
      before.dropWhile CodePoint.isBlank ++ CodePoint.ofChar ',' ::
        (name ++ CodePoint.ofChar ',' :: Text.dropEndWhile CodePoint.isBlank behind) := by
    rw [Text.trim, Text.trimWhile, Text.dropWhile_append_kept isBlank_comma_eq_false,
      Text.dropEndWhile_append_kept isBlank_comma_eq_false, Text.dropEndWhile_append_kept isBlank_comma_eq_false]
  have hcount : (before.dropWhile CodePoint.isBlank).count (CodePoint.ofChar ',') =
      before.count (CodePoint.ofChar ',') := by
    refine (count_comma_of_isPadded ⟨before.takeWhile CodePoint.isBlank, [], ?_, ?_⟩).symm
    · rw [List.append_nil, List.takeWhile_append_dropWhile]
    · rw [List.append_nil]
      exact fun c => List.mem_takeWhile_imp
  have hlength : (Text.splitOn ',' (before.dropWhile CodePoint.isBlank)).length =
      before.count (CodePoint.ofChar ',') + 1 := by
    rw [Text.length_splitOn, hcount]
  rw [dataCenters, htrim, Text.splitOn_append, Text.splitOn_append, Text.splitOn_of_not_mem h, ← hlength]
  simp

/-! ## The option -/

theorem excludedDataCenters_of_given (h : options.raw .excludedDataCenters = some raw) :
    options.excludedDataCenters = dataCenters raw := by
  rw [excludedDataCenters, h]

/-- **The data centers are the text in another form.** What a text is read as can be written with commas, and is then
the text without the blanks around it. There is one name more than there are commas, and between two commas stands a
name as it is. The written names are read as the same names again, and so is every other list that can be written. -/
theorem excludedDataCenters_lossless (hraw : options.raw .excludedDataCenters = some raw) :
    IsCenterList options.excludedDataCenters ∧
      Text.IsPadded (Text.join "," options.excludedDataCenters) raw ∧
      options.excludedDataCenters.length = raw.count (CodePoint.ofChar ',') + 1 ∧
      (∀ before name behind, CodePoint.ofChar ',' ∉ name →
        raw = before ++ CodePoint.ofChar ',' :: (name ++ CodePoint.ofChar ',' :: behind) →
        options.excludedDataCenters[before.count (CodePoint.ofChar ',') + 1]? = some name) ∧
      (∀ options' : OptionMap,
        options'.raw .excludedDataCenters = some (Text.join "," options.excludedDataCenters) →
        options'.excludedDataCenters = options.excludedDataCenters) ∧
      ∀ names, IsCenterList names → ∀ options' : OptionMap,
        options'.raw .excludedDataCenters = some (Text.join "," names) → options'.excludedDataCenters = names := by
  have hcenters : options.excludedDataCenters = dataCenters raw := excludedDataCenters_of_given hraw
  obtain ⟨hlist, hpadded⟩ := dataCenters_eq_iff.mp hcenters.symm
  have hagain : ∀ names, IsCenterList names → ∀ options' : OptionMap,
      options'.raw .excludedDataCenters = some (Text.join "," names) → options'.excludedDataCenters = names := by
    intro names hnames options' hjoin
    rw [excludedDataCenters_of_given hjoin, dataCenters_of_isCenterList hnames]
  refine ⟨hlist, hpadded, ?_, ?_, hagain _ hlist, hagain⟩
  · rw [hcenters, length_dataCenters]
  · rintro before name behind hname rfl
    rw [hcenters, getElem?_dataCenters hname]

/-- Options that give a text for the data centers, and nothing else. -/
def centersGiven (raw : Text) : OptionMap := [(OptionName.excludedDataCenters.text, raw)]

/-- Names that are empty or blank, or have blanks inside. -/
def blankNames : List Text := ["", "dc 1", "", " dc2 ", " ", ""]

/-- They are read from a text with blanks of several kinds around it, as they stand there, and again from what is
written for them. -/
theorem excludedDataCenters_lossless_blankNames :
    (centersGiven "\u00a0\t,dc 1,, dc2 , ,\u3000").raw .excludedDataCenters =
        some (Text.ofString "\u00a0\t,dc 1,, dc2 , ,\u3000") ∧
      (centersGiven "\u00a0\t,dc 1,, dc2 , ,\u3000").excludedDataCenters[3]? = some (Text.ofString " dc2 ") ∧
      IsCenterList blankNames ∧ (centersGiven (Text.join "," blankNames)).excludedDataCenters = blankNames := by
  have hraw : (centersGiven "\u00a0\t,dc 1,, dc2 , ,\u3000").raw .excludedDataCenters =
      some (Text.ofString "\u00a0\t,dc 1,, dc2 , ,\u3000") := by decide
  have hnames : IsCenterList blankNames := ⟨by decide, by decide, by decide, by decide⟩
  obtain ⟨-, -, -, hbetween, -, hagain⟩ := excludedDataCenters_lossless hraw
  exact ⟨hraw, hbetween "\u00a0\t,dc 1," " dc2 " " ,\u3000" (by decide) (by decide), hnames,
    hagain blankNames hnames _ (by decide)⟩

end IndexOptions.OptionMap
