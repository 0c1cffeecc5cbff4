import IndexOptions.Text.Basic
import IndexOptions.Text.Case

/-!
# Lower case

Lowering looks at the neighbours of a capital sigma only, and a code point that has no case and is not ignored hides
them from each other (`lowerFrom_append_of_breaksWord`). So a text that is put together with such code points is lowered
part by part.

- `mem_of_mem_lower`, `isBlank_lower`: lowering makes no code point below the small letters and no blank;
- `lower_of_infix_lower`: every part of a text in lower case is in lower case, since no run of the case table leads to
  another one (`lowerRuns_lead_past_runs`);
- `lower_withoutBlanks_of_written`: blanks and the case of ASCII letters do not matter to the lower-case form without
  blanks.
-/

namespace IndexOptions

namespace CodePoint

/-! ## Where the case table leads -/

theorem lowerIn?_eq_some_iff {c n : Nat} {run : Nat × Nat × Nat × Nat} :
    lowerIn? c run = some n ↔
      run.1 ≤ c ∧ c ≤ run.2.1 ∧ (c - run.1) % run.2.2.1 = 0 ∧ run.2.2.2 + (c - run.1) = n := by
  unfold lowerIn?
  dsimp only
  rw [Option.ite_none_right_eq_some]
  simp [and_assoc]

/-- A run leads past every run: before it, behind it, or in between the code points of one that takes every second of
them. -/
theorem lowerRuns_lead_past_runs : ∀ run ∈ CaseTable.lowerRuns, ∀ other ∈ CaseTable.lowerRuns,
    run.2.2.2 + (run.2.1 - run.1) < other.1 ∨ other.2.1 < run.2.2.2 ∨
      other.2.2.1 = 2 ∧ (run.2.2.1 = 2 ∨ run.2.1 = run.1) ∧ (run.2.2.2 + other.1) % 2 = 1 := by
  -- There are many pairs, and the kernel evaluates Booleans faster than it decides propositions.
  have hall : (CaseTable.lowerRuns.all fun run => CaseTable.lowerRuns.all fun other =>
      (run.2.2.2 + (run.2.1 - run.1)).blt other.1 || (other.2.1.blt run.2.2.2 ||
        (other.2.2.1 == 2 && ((run.2.2.1 == 2 || run.2.1 == run.1) && (run.2.2.2 + other.1) % 2 == 1)))) = true := by
    decide +kernel
  simpa only [List.all_eq_true, Bool.or_eq_true, Bool.and_eq_true, Nat.blt_eq, beq_iff_eq] using hall

/-- A run leads past all that is below the small letters, past U+0130 and past the blanks. -/
theorem lowerRuns_lead_past_blanks : ∀ run ∈ CaseTable.lowerRuns, run.2.2.2 + (run.2.1 - run.1) < 0x110000 ∧
    ∀ range ∈ [(0, 0x60), (0x85, 0xA0), (0x130, 0x130), (0x1680, 0x1680), (0x2000, 0x205F), (0x3000, 0x3000)],
      run.2.2.2 + (run.2.1 - run.1) < range.1 ∨ range.2 < run.2.2.2 := by
  decide +kernel

variable {run other : Nat × Nat × Nat × Nat} {n m : Nat} {c d : CodePoint}

/-- What a run leads to is covered by no run. -/
theorem lowerIn?_of_lowerIn? (hrun : run ∈ CaseTable.lowerRuns) (hother : other ∈ CaseTable.lowerRuns)
    (h : lowerIn? m run = some n) : lowerIn? n other = none := by
  apply Option.eq_none_iff_forall_ne_some.mpr
  intro k hk
  obtain ⟨hfirst, hlast, hstep, rfl⟩ := lowerIn?_eq_some_iff.mp h
  obtain ⟨hfirst', hlast', hstep', -⟩ := lowerIn?_eq_some_iff.mp hk
  rcases lowerRuns_lead_past_runs run hrun other hother with hbefore | hbehind | ⟨htwo, heven, hodd⟩
  · omega
  · omega
  · rw [htwo] at hstep'
    rcases heven with heven | hsingle
    · rw [heven] at hstep
      omega
    · omega

theorem val_of_lowerIn? (hrun : run ∈ CaseTable.lowerRuns) (h : lowerIn? m run = some n) :
    (ofNat n).val = n ∧ 0x60 < n ∧ (n < 0x85 ∨ 0xA0 < n) ∧ n ≠ 0x130 ∧ n ≠ 0x1680 ∧ (n < 0x2000 ∨ 0x205F < n) ∧
      n ≠ 0x3000 := by
  obtain ⟨hfirst, hlast, -, rfl⟩ := lowerIn?_eq_some_iff.mp h
  obtain ⟨hlt, hpast⟩ := lowerRuns_lead_past_blanks run hrun
  simp only [List.forall_mem_cons, List.not_mem_nil, false_implies, implies_true, and_true] at hpast
  refine ⟨val_ofNat (by omega), ?_⟩
  omega

/-- A code point of a lower-case form is the code point itself, one of the two that U+0130 leads to, or what a run of
the case table leads to. -/
theorem mem_lower_cases (h : d ∈ c.lower) :
    (d = c ∧ c.lower = [c]) ∨ d ∈ [ofNat 0x69, ofNat 0x307] ∨
      ∃ run ∈ CaseTable.lowerRuns, ∃ n, lowerIn? c.val run = some n ∧ d = ofNat n := by
  unfold lower at h ⊢
  split at h
  · exact Or.inr (Or.inl h)
  · next hdotted =>
    split at h
    · next n hn =>
      obtain ⟨run, hrun, hin⟩ := List.exists_of_findSome?_eq_some hn
      exact Or.inr (Or.inr ⟨run, hrun, n, hin, List.mem_singleton.mp h⟩)
    · exact Or.inl ⟨List.mem_singleton.mp h, if_neg hdotted⟩

/-! ## The code points of a lower-case form -/

/-- A code point below the small letters comes from itself only. -/
theorem eq_of_mem_lower (h : d ∈ c.lower) (hd : d.val < 97) : d = c := by
  rcases mem_lower_cases h with ⟨rfl, -⟩ | hpair | ⟨run, hrun, n, hin, rfl⟩
  · rfl
  · have hsmall : ∀ e ∈ [ofNat 0x69, ofNat 0x307], 97 ≤ e.val := by decide
    exact absurd (hsmall d hpair) (by omega)
  · obtain ⟨hval, hsmall, -⟩ := val_of_lowerIn? hrun hin
    omega

/-- What lowering makes is in lower case. -/
theorem lower_of_mem_lower (h : d ∈ c.lower) : d.lower = [d] := by
  rcases mem_lower_cases h with ⟨rfl, hself⟩ | hpair | ⟨run, hrun, n, hin, rfl⟩
  · exact hself
  · have hlower : ∀ e ∈ [ofNat 0x69, ofNat 0x307], e.lower = [e] := by decide +kernel
    exact hlower d hpair
  · obtain ⟨hval, -, -, hdotted, -⟩ := val_of_lowerIn? hrun hin
    have hnone : CaseTable.lowerRuns.findSome? (lowerIn? n) = none :=
      List.findSome?_eq_none_iff.mpr fun other hother => lowerIn?_of_lowerIn? hrun hother hin
    unfold lower
    rw [hval, if_neg hdotted, hnone]

/-- Lowering makes no blanks. -/
theorem isBlank_of_mem_lower (h : d ∈ c.lower) (hc : c.isBlank = false) : d.isBlank = false := by
  rcases mem_lower_cases h with ⟨rfl, -⟩ | hpair | ⟨run, hrun, n, hin, rfl⟩
  · exact hc
  · have hblank : ∀ e ∈ [ofNat 0x69, ofNat 0x307], e.isBlank = false := by decide
    exact hblank d hpair
  · obtain ⟨hval, hpast⟩ := val_of_lowerIn? hrun hin
    simp only [isBlank, isWhiteSpace, hval, Bool.or_eq_false_iff, Bool.and_eq_false_iff, decide_eq_false_iff_not,
      beq_eq_false_iff_ne]
    omega

/-! ## The case of ASCII letters -/

/-- The small letter of an ASCII capital. -/
def asciiLower (c : CodePoint) : CodePoint := if 65 ≤ c.val && c.val ≤ 90 then ofNat (c.val + 32) else c

/-- No run of the case table covers a small ASCII letter. -/
theorem lowerRuns_skip_small : ∀ run ∈ CaseTable.lowerRuns, run.2.1 < 97 ∨ 122 < run.1 := by
  decide +kernel

theorem lower_of_small (h₁ : 97 ≤ c.val) (h₂ : c.val ≤ 122) : c.lower = [c] := by
  have hnone : CaseTable.lowerRuns.findSome? (lowerIn? c.val) = none := by
    refine List.findSome?_eq_none_iff.mpr fun run hrun => Option.eq_none_iff_forall_ne_some.mpr fun n hn => ?_
    obtain ⟨hfirst, hlast, -⟩ := lowerIn?_eq_some_iff.mp hn
    have hskip := lowerRuns_skip_small run hrun
    omega
  unfold lower
  rw [if_neg (by omega), hnone]

/-- No ASCII letter is ignored. -/
theorem caseIgnorableRanges_skip_letters : ∀ range ∈ CaseTable.caseIgnorableRanges,
    range.2 < 65 ∨ 90 < range.1 ∧ range.2 < 97 ∨ 122 < range.1 := by
  decide +kernel

theorem isCaseIgnorable_of_letter {c : CodePoint} (h : 65 ≤ c.val ∧ c.val ≤ 90 ∨ 97 ≤ c.val ∧ c.val ≤ 122) :
    c.isCaseIgnorable = false := by
  unfold isCaseIgnorable
  rw [List.any_eq_false]
  rintro ⟨first, last⟩ hrange
  have := caseIgnorableRanges_skip_letters _ hrange
  simp only [Bool.and_eq_true, decide_eq_true_eq]
  omega

/-- What is asked of a code point when a text is lowered or its blanks are taken away. -/
def traits (c : CodePoint) : Text × Bool × Bool × Bool × Bool :=
  (c.lower, c.isCased, c.isCaseIgnorable, c = capitalSigma, c.isBlank)

theorem capital_and_small : ∀ n < 26, (ofNat (65 + n)).asciiLower = ofNat (97 + n) ∧
    (ofNat (65 + n)).lower = [ofNat (97 + n)] ∧ (ofNat (97 + n)).isCased = (ofNat (65 + n)).isCased ∧
    (ofNat (97 + n) = capitalSigma ↔ ofNat (65 + n) = capitalSigma) ∧
    (ofNat (97 + n)).isBlank = (ofNat (65 + n)).isBlank := by
  decide +kernel

/-- A capital is lowered as its small letter is. -/
theorem traits_asciiLower (c : CodePoint) : c.asciiLower.traits = c.traits := by
  by_cases h : 65 ≤ c.val ∧ c.val ≤ 90
  · obtain ⟨n, hn, rfl⟩ : ∃ n < 26, c = ofNat (65 + n) :=
      ⟨c.val - 65, by omega, ext (by rw [val_ofNat (by omega)]; omega)⟩
    obtain ⟨hsmall, hlower, hcased, hsigma, hblank⟩ := capital_and_small n hn
    have hval : (ofNat (97 + n)).val = 97 + n := val_ofNat (by omega)
    have hlower' : (ofNat (97 + n)).lower = [ofNat (97 + n)] := lower_of_small (by omega) (by omega)
    have hignorable : (ofNat (97 + n)).isCaseIgnorable = (ofNat (65 + n)).isCaseIgnorable := by
      rw [isCaseIgnorable_of_letter (Or.inr (by omega)), isCaseIgnorable_of_letter (Or.inl h)]
    simp only [traits, hsmall, hlower, hlower', hcased, hignorable, hsigma, hblank]
  · rw [asciiLower, if_neg (by simpa using h)]

theorem isBlank_asciiLower (c : CodePoint) : c.asciiLower.isBlank = c.isBlank :=
  congrArg (fun traits => traits.2.2.2.2) (traits_asciiLower c)

/-! ## Word boundaries -/

/-- A code point that ends every word. -/
def breaksWord (c : CodePoint) : Bool := !c.isCased && !c.isCaseIgnorable

theorem isCased_of_breaksWord {c : CodePoint} (h : c.breaksWord) : c.isCased = false := by
  simp_all [breaksWord]

theorem isCaseIgnorable_of_breaksWord {c : CodePoint} (h : c.breaksWord) : c.isCaseIgnorable = false := by
  simp_all [breaksWord]

theorem ne_capitalSigma_of_breaksWord {c : CodePoint} (h : c.breaksWord) : c ≠ capitalSigma := by
  rintro rfl
  revert h
  decide

end CodePoint

namespace Text

open CodePoint (traits breaksWord asciiLower)

variable {t u : Text} {c d : CodePoint}

/-! ## Lowering part by part -/

theorem continuesWord_cons (c : CodePoint) (t : Text) :
    continuesWord (c :: t) = if c.isCaseIgnorable then continuesWord t else c.isCased := by
  unfold continuesWord
  rw [List.dropWhile_cons]
  cases c.isCaseIgnorable <;> rfl

/-- What comes after a word boundary does not continue a word. -/
theorem continuesWord_append_of_breaksWord (hc : c.breaksWord) (t r : Text) :
    continuesWord (t ++ c :: r) = continuesWord t := by
  induction t with
  | nil =>
    rw [List.nil_append, continuesWord_cons, CodePoint.isCaseIgnorable_of_breaksWord hc]
    exact CodePoint.isCased_of_breaksWord hc
  | cons d t ih => rw [List.cons_append, continuesWord_cons, continuesWord_cons, ih]

theorem lowerFrom_cons_of_breaksWord (hc : c.breaksWord) (inWord : Bool) (r : Text) :
    lowerFrom inWord (c :: r) = c.lower ++ lowerFrom false r := by
  rw [lowerFrom, if_neg (CodePoint.ne_capitalSigma_of_breaksWord hc), CodePoint.isCaseIgnorable_of_breaksWord hc,
    CodePoint.isCased_of_breaksWord hc]
  rfl

/-- The two sides of a word boundary are lowered by themselves. -/
theorem lowerFrom_append_of_breaksWord (hc : c.breaksWord) (inWord : Bool) (t r : Text) :
    lowerFrom inWord (t ++ c :: r) = lowerFrom inWord t ++ (c.lower ++ lowerFrom false r) := by
  induction t generalizing inWord with
  | nil => exact lowerFrom_cons_of_breaksWord hc inWord r
  | cons d t ih =>
    rw [List.cons_append, lowerFrom, lowerFrom]
    split
    · rw [continuesWord_append_of_breaksWord hc, ih, List.append_assoc]
    · rw [ih, List.append_assoc]

theorem lower_append_of_breaksWord (hc : c.breaksWord) (t r : Text) :
    (t ++ c :: r).lower = t.lower ++ (c.lower ++ r.lower) :=
  lowerFrom_append_of_breaksWord hc false t r

/-! ## Texts in lower case -/

/-- The code points of a lower-case form come from single code points, the final sigma apart. -/
theorem exists_of_mem_lowerFrom {inWord : Bool} (h : d ∈ lowerFrom inWord t) :
    d = CodePoint.finalSigma ∨ ∃ c ∈ t, d ∈ c.lower := by
  induction t generalizing inWord with
  | nil => cases h
  | cons c t ih =>
    have hhead : d ∈ c.lower → d = CodePoint.finalSigma ∨ ∃ e ∈ c :: t, d ∈ e.lower :=
      fun hd => Or.inr ⟨c, List.mem_cons_self, hd⟩
    have htail : ∀ {inWord'}, d ∈ lowerFrom inWord' t → d = CodePoint.finalSigma ∨ ∃ e ∈ c :: t, d ∈ e.lower :=
      fun hd => (ih hd).imp_right fun ⟨e, he, hlower⟩ => ⟨e, List.mem_cons_of_mem _ he, hlower⟩
    rw [lowerFrom] at h
    split at h
    · rcases List.mem_append.mp h with h | h
      · split at h
        · exact Or.inl (List.mem_singleton.mp h)
        · exact hhead h
      · exact htail h
    · rcases List.mem_append.mp h with h | h
      · exact hhead h
      · exact htail h

/-- Lowering makes no code point below the small letters. -/
theorem mem_of_mem_lower (h : d ∈ t.lower) (hd : d.val < 97) : d ∈ t := by
  rcases exists_of_mem_lowerFrom h with rfl | ⟨c, hc, hlower⟩
  · exact absurd hd (by decide)
  · exact CodePoint.eq_of_mem_lower hlower hd ▸ hc

/-- A text without blanks has none in lower case. -/
theorem isBlank_lower (h : ∀ c ∈ t, c.isBlank = false) : ∀ c ∈ t.lower, c.isBlank = false := by
  intro d hd
  rcases exists_of_mem_lowerFrom hd with rfl | ⟨c, hc, hlower⟩
  · decide
  · exact CodePoint.isBlank_of_mem_lower hlower (h c hc)

/-- Code points in lower case stay, whatever stands before them. -/
theorem lowerFrom_eq_self (h : ∀ c ∈ t, c.lower = [c]) (inWord : Bool) : lowerFrom inWord t = t := by
  induction t generalizing inWord with
  | nil => rfl
  | cons c t ih =>
    obtain ⟨hc, ht⟩ := List.forall_mem_cons.mp h
    have hsigma : c ≠ CodePoint.capitalSigma := by
      rintro rfl
      exact absurd hc (by decide +kernel)
    rw [lowerFrom, if_neg hsigma, hc, ih ht, List.singleton_append]

/-- Every part of a text in lower case is in lower case. -/
theorem lower_of_infix_lower (h : u <:+: t.lower) : u.lower = u := by
  refine lowerFrom_eq_self (fun d hd => ?_) false
  rcases exists_of_mem_lowerFrom (h.subset hd) with rfl | ⟨c, -, hlower⟩
  · decide +kernel
  · exact CodePoint.lower_of_mem_lower hlower

/-! ## Texts that differ in blanks and in the case of ASCII letters -/

/-- A text as it may be written: with blanks anywhere, and with ASCII letters in either case. -/
inductive Written : Text → Text → Prop where
  | nil : Written [] []
  | blank {t u : Text} {b : CodePoint} : b.isBlank → Written t u → Written t (b :: u)
  | cons {t u : Text} {c d : CodePoint} : c.asciiLower = d.asciiLower → Written t u → Written (c :: t) (d :: u)

/-- However a text is written, the code points that are left without blanks are the same up to their case. -/
theorem map_asciiLower_of_written (h : Written t u) :
    u.withoutBlanks.map asciiLower = t.withoutBlanks.map asciiLower := by
  induction h with
  | nil => rfl
  | blank hb _ ih =>
    rw [withoutBlanks, List.filter_cons_of_neg (by simp [hb])]
    exact ih
  | @cons t u c d hcd _ ih =>
    have hblank : d.isBlank = c.isBlank := by
      rw [← CodePoint.isBlank_asciiLower, ← hcd, CodePoint.isBlank_asciiLower]
    cases hc : c.isBlank with
    | true =>
      rw [withoutBlanks, withoutBlanks, List.filter_cons_of_neg (by simp [hblank, hc]),
        List.filter_cons_of_neg (by simp [hc])]
      exact ih
    | false =>
      rw [withoutBlanks, withoutBlanks, List.filter_cons_of_pos (by simp [hblank, hc]),
        List.filter_cons_of_pos (by simp [hc]), List.map_cons, List.map_cons, hcd]
      exact congrArg _ ih

theorem withoutBlanks_eq_self (ht : ∀ c ∈ t, c.isBlank = false) : t.withoutBlanks = t :=
  List.filter_eq_self.mpr fun c hc => by simp [ht c hc]

/-- How a text without blanks is written is told by the code points that are left without blanks, up to their case. -/
theorem written_iff (ht : ∀ c ∈ t, c.isBlank = false) :
    Written t u ↔ u.withoutBlanks.map asciiLower = t.map asciiLower := by
  constructor
  · intro h
    rw [map_asciiLower_of_written h, withoutBlanks_eq_self ht]
  · intro h
    induction u generalizing t with
    | nil =>
      rw [List.map_eq_nil_iff.mp h.symm]
      exact .nil
    | cons d u ih =>
      cases hd : d.isBlank with
      | true =>
        rw [withoutBlanks, List.filter_cons_of_neg (by simp [hd])] at h
        exact .blank hd (ih ht h)
      | false =>
        rw [withoutBlanks, List.filter_cons_of_pos (by simp [hd])] at h
        cases t with
        | nil => cases h
        | cons c t =>
          rw [List.map_cons, List.map_cons, List.cons.injEq] at h
          exact .cons h.1.symm (ih (fun c hc => ht c (List.mem_cons_of_mem _ hc)) h.2)

theorem continuesWord_map_asciiLower (t : Text) : continuesWord (t.map asciiLower) = continuesWord t := by
  induction t with
  | nil => rfl
  | cons c t ih =>
    have hc := CodePoint.traits_asciiLower c
    simp only [traits, Prod.mk.injEq] at hc
    rw [List.map_cons, continuesWord_cons, continuesWord_cons, hc.2.1, hc.2.2.1, ih]

theorem lowerFrom_map_asciiLower (inWord : Bool) (t : Text) :
    lowerFrom inWord (t.map asciiLower) = lowerFrom inWord t := by
  induction t generalizing inWord with
  | nil => rfl
  | cons c t ih =>
    have hc := CodePoint.traits_asciiLower c
    simp only [traits, Prod.mk.injEq, decide_eq_decide] at hc
    obtain ⟨hlower, hcased, hignorable, hsigma, -⟩ := hc
    rw [List.map_cons, lowerFrom, lowerFrom, continuesWord_map_asciiLower, hlower, hcased, hignorable, ih, ih]
    simp only [hsigma]

/-- However a text is written, it has the same lower-case form without blanks. -/
theorem lower_withoutBlanks_of_written (h : Written t u) : u.withoutBlanks.lower = t.withoutBlanks.lower := by
  unfold lower
  rw [← lowerFrom_map_asciiLower, map_asciiLower_of_written h, lowerFrom_map_asciiLower]

theorem lower_eq_of_written (h : Written t u) (ht : ∀ c ∈ t, c.isBlank = false) : u.withoutBlanks.lower = t.lower := by
  rw [lower_withoutBlanks_of_written h, withoutBlanks_eq_self ht]

end Text

end IndexOptions
