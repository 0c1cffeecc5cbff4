import IndexOptions.Proofs.ReaderLimits

/-!
# Texts of decimal numerals

A decimal numeral is an optional sign, digits with an optional point, of which there are some before it or behind it,
and an optional exponent with a sign of its own. `Decimal.Denotes` gives this grammar together with the rational number
that the text denotes. The reader of numerals is exact for it: a text is read if and only if it is such a numeral, and
what is read is its number (`denotes_iff`).

The reader cuts a text at the first code point that is no digit. In a numeral that is the point, the mark of the
exponent or the end, so each cut is the one that the grammar makes (`cut_of_digitsText`, `digitsText_of_cut`).
-/

namespace IndexOptions

namespace Text

/-- Digits behind others denote the sum of their shares. -/
theorem digitsValue_append (s t : Text) :
    digitsValue (s ++ t) = digitsValue s * 10 ^ t.length + digitsValue t := by
  have hfold : ∀ (t : Text) (n : Nat), t.foldl (fun n c => 10 * n + c.digitValue) n =
      n * 10 ^ t.length + digitsValue t := by
    intro t
    induction t with
    | nil => simp [digitsValue]
    | cons c t ih =>
      intro n
      have hcons : digitsValue (c :: t) = c.digitValue * 10 ^ t.length + digitsValue t := by
        rw [digitsValue, List.foldl_cons, ih]
        simp
      rw [List.foldl_cons, ih, hcons, List.length_cons, Nat.pow_succ]
      ring
  rw [digitsValue, List.foldl_append, hfold]
  rfl

end Text

namespace Decimal

/-! ## The grammar -/

/-- A sign that may be left out; `true` stands for minus. -/
inductive SignText : Bool → Text → Prop
  | none : SignText false []
  | plus : SignText false [CodePoint.ofChar '+']
  | minus : SignText true [CodePoint.ofChar '-']

/-- Digits with an optional point: those before it, which are all if there is none, and those behind it. There is at
least one digit. -/
inductive DigitsText : Text → Text → Text → Prop
  | whole {whole : Text} (hdigits : whole.all CodePoint.isDigit) (hsome : whole ≠ []) : DigitsText whole [] whole
  | pointed {whole part : Text} (hwhole : whole.all CodePoint.isDigit) (hpart : part.all CodePoint.isDigit)
    (hsome : whole ≠ [] ∨ part ≠ []) : DigitsText whole part (whole ++ CodePoint.ofChar '.' :: part)

/-- An exponent that may be left out. -/
inductive ExponentText : Int → Text → Prop
  | none : ExponentText 0 []
  | marked {mark : CodePoint} {negative : Bool} {sign digits : Text} (hmark : mark = 'e' ∨ mark = 'E')
    (hsign : SignText negative sign) (hdigits : digits.all CodePoint.isDigit) (hsome : digits ≠ []) :
    ExponentText (if negative then -(Text.digitsValue digits : Int) else Text.digitsValue digits)
      (mark :: (sign ++ digits))

/-- The sign of a number. -/
def signFactor (negative : Bool) : ℚ := if negative then -1 else 1

/-- A text is a decimal numeral, and denotes a rational number. -/
inductive Denotes : Text → ℚ → Prop
  | numeral {negative : Bool} {sign whole part body behind : Text} {exponent : Int} (hsign : SignText negative sign)
    (hbody : DigitsText whole part body) (hexponent : ExponentText exponent behind) :
    Denotes (sign ++ body ++ behind) (signFactor negative *
      ((Text.digitsValue whole + Text.digitsValue part / 10 ^ part.length) * 10 ^ exponent))

/-- The rational number of a decimal. -/
def toRat (x : Decimal) : ℚ := signFactor x.negative * (x.mantissa * 10 ^ x.exponent)

/-- The digits before and behind the point make one mantissa, with an exponent that is less by the number of those
behind. -/
theorem toRat_of_parts (negative : Bool) (whole part : Text) (exponent : Int) :
    toRat ⟨negative, Text.digitsValue (whole ++ part), exponent - part.length⟩ =
      signFactor negative *
        ((Text.digitsValue whole + Text.digitsValue part / 10 ^ part.length) * 10 ^ exponent) := by
  have hten : (10 : ℚ) ≠ 0 := by norm_num
  unfold toRat
  rw [Text.digitsValue_append, zpow_sub₀ hten, zpow_natCast]
  push_cast
  field_simp

/-! ## Signs -/

/-- The text begins with no sign. -/
def Unsigned (t : Text) : Prop := ∀ c ∈ t.head?, c ≠ '-' ∧ c ≠ '+'

theorem unsigned_of_all_isDigit {t rest : Text} (hdigits : t.all CodePoint.isDigit) (hrest : Unsigned rest) :
    Unsigned (t ++ rest) := by
  cases t with
  | nil => exact hrest
  | cons c t =>
    rw [List.all_cons, Bool.and_eq_true] at hdigits
    intro c' hc'
    cases hc'
    constructor
    · rintro rfl
      exact absurd hdigits.1 (by decide)
    · rintro rfl
      exact absurd hdigits.1 (by decide)

/-- A sign is taken off what begins with none. -/
theorem signed_append {negative : Bool} {sign rest : Text} (h : SignText negative sign) (hrest : Unsigned rest) :
    signed (sign ++ rest) = (negative, rest) := by
  cases h with
  | none =>
    cases rest with
    | nil => rfl
    | cons c rest =>
      obtain ⟨hminus, hplus⟩ := hrest c rfl
      rw [List.nil_append, signed, if_neg hminus, if_neg hplus]
  | plus => rfl
  | minus => rfl

/-- What is taken off a text is a sign. -/
theorem signText_of_signed {negative : Bool} {t rest : Text} (h : signed t = (negative, rest)) :
    ∃ sign, SignText negative sign ∧ t = sign ++ rest := by
  unfold signed at h
  split at h
  · cases h
    exact ⟨_, .none, rfl⟩
  · next c r =>
    split_ifs at h with hminus hplus
    · cases h
      exact ⟨_, .minus, by rw [hminus]; rfl⟩
    · cases h
      exact ⟨_, .plus, by rw [hplus]; rfl⟩
    · cases h
      exact ⟨_, .none, rfl⟩

/-! ## Exponents -/

/-- What is read for an exponent is one, and each exponent is read. -/
theorem exponent?_eq_some_iff {t : Text} {exponent : Int} : exponent? t = some exponent ↔ ExponentText exponent t := by
  constructor
  · intro h
    unfold exponent? at h
    split at h
    · cases h
      exact .none
    · next mark rest =>
      cases hsigned : signed rest with
      | mk negative digits =>
        rw [hsigned] at h
        split_ifs at h with hmark
        dsimp only at h
        split_ifs at h with hdigits hminus
        all_goals
          obtain ⟨sign, hsign, rfl⟩ := signText_of_signed hsigned
          simp only [Bool.or_eq_true, decide_eq_true_eq] at hmark
          simp only [Bool.and_eq_true, decide_eq_true_eq] at hdigits
          have htext := ExponentText.marked hmark hsign hdigits.2 hdigits.1
          rw [← Option.some.inj h]
        · rwa [hminus, if_pos rfl] at htext
        · rwa [if_neg hminus] at htext
  · intro h
    cases h with
    | none => rfl
    | @marked mark negative sign digits hmark hsign hdigits hsome =>
      have hunsigned : Unsigned digits := by
        rw [← List.append_nil digits]
        exact unsigned_of_all_isDigit hdigits (by simp [Unsigned])
      have hmark' : (decide (mark = CodePoint.ofChar 'e') || decide (mark = CodePoint.ofChar 'E')) = true := by
        simpa using hmark
      rw [exponent?, if_pos hmark', signed_append hsign hunsigned]
      simp [hdigits, hsome]

/-- What begins an exponent is neither a digit nor a point. -/
theorem head_of_exponentText {exponent : Int} {t : Text} (h : ExponentText exponent t) :
    (∀ c ∈ t.head?, ¬c.isDigit) ∧ ∀ c ∈ t.head?, c ≠ '.' ∧ c ≠ '-' ∧ c ≠ '+' := by
  cases h with
  | none => exact ⟨by simp, by simp⟩
  | marked hmark =>
    rcases hmark with rfl | rfl
    · exact ⟨fun c hc => by cases hc; decide, fun c hc => by cases hc; decide⟩
    · exact ⟨fun c hc => by cases hc; decide, fun c hc => by cases hc; decide⟩

/-! ## Digits with a point -/

/-- The digits of a numeral, what stands behind the point, and what stands behind the digits. -/
theorem cut_of_digitsText {whole part body behind : Text} (h : DigitsText whole part body)
    (hdigit : ∀ c ∈ behind.head?, ¬c.isDigit) (hpoint : ∀ c ∈ behind.head?, c ≠ '.') :
    (body ++ behind).takeWhile CodePoint.isDigit = whole ∧
      fraction ((body ++ behind).dropWhile CodePoint.isDigit) = (part, behind) := by
  cases h with
  | whole hdigits =>
    obtain ⟨htake, hdrop⟩ := Document.span_digits hdigits hdigit
    refine ⟨htake, ?_⟩
    rw [hdrop]
    cases behind with
    | nil => rfl
    | cons c behind => rw [fraction, if_neg (hpoint c rfl)]
  | pointed hwhole hpart =>
    have hbody : whole ++ CodePoint.ofChar '.' :: part ++ behind =
        whole ++ CodePoint.ofChar '.' :: (part ++ behind) := by
      simp
    have hpoint : ∀ c ∈ (CodePoint.ofChar '.' :: (part ++ behind)).head?, ¬c.isDigit := fun c hc => by cases hc; decide
    obtain ⟨htake, hdrop⟩ := Document.span_digits hwhole hpoint
    obtain ⟨htake', hdrop'⟩ := Document.span_digits hpart hdigit
    rw [hbody, htake, hdrop, fraction, if_pos rfl, htake', hdrop']
    exact ⟨rfl, rfl⟩

/-- What is cut off a text as digits with a point is that, if there is a digit. -/
theorem digitsText_of_cut {t part behind : Text}
    (h : fraction (t.dropWhile CodePoint.isDigit) = (part, behind))
    (hsome : t.takeWhile CodePoint.isDigit ≠ [] ∨ part ≠ []) :
    ∃ body, DigitsText (t.takeWhile CodePoint.isDigit) part body ∧ t = body ++ behind := by
  have hall : ∀ t : Text, (t.takeWhile CodePoint.isDigit).all CodePoint.isDigit := by
    intro t
    exact List.all_eq_true.mpr fun c hc => List.mem_takeWhile_imp hc
  have hsplit : t = t.takeWhile CodePoint.isDigit ++ t.dropWhile CodePoint.isDigit :=
    List.takeWhile_append_dropWhile.symm
  unfold fraction at h
  split at h
  · next hdrop =>
    cases h
    refine ⟨_, .whole (hall t) (by simpa using hsome), ?_⟩
    rwa [hdrop] at hsplit
  · next c rest hdrop =>
    split_ifs at h with hpoint
    · cases h
      refine ⟨_, .pointed (hall t) (hall rest) hsome, ?_⟩
      rw [hdrop, hpoint] at hsplit
      rw [List.append_assoc, List.cons_append, List.takeWhile_append_dropWhile]
      exact hsplit
    · cases h
      refine ⟨_, .whole (hall t) (by simpa using hsome), ?_⟩
      rwa [hdrop] at hsplit

/-- A numeral behind its sign begins with none. -/
theorem unsigned_of_digitsText {whole part body behind : Text} (h : DigitsText whole part body)
    (hsign : ∀ c ∈ behind.head?, c ≠ '-' ∧ c ≠ '+') : Unsigned (body ++ behind) := by
  cases h with
  | whole hdigits => exact unsigned_of_all_isDigit hdigits hsign
  | pointed hwhole =>
    rw [List.append_assoc]
    exact unsigned_of_all_isDigit hwhole fun c hc => by cases hc; decide

/-! ## Whole numerals -/

/-- **The reader of numerals is exact.** A text is read exactly if it is a decimal numeral, and its number is read. -/
theorem denotes_iff {t : Text} {r : ℚ} : Denotes t r ↔ ∃ x, parse? t = some x ∧ x.toRat = r := by
  constructor
  · rintro ⟨hsign, hbody, hexponent⟩
    next negative sign whole part body behind exponent =>
    obtain ⟨hdigit, hmarks⟩ := head_of_exponentText hexponent
    obtain ⟨htake, hfraction⟩ := cut_of_digitsText hbody hdigit fun c hc => (hmarks c hc).1
    have hsome : ¬(whole = [] && part = []) := by
      cases hbody with
      | whole _ hsome => simpa using hsome
      | pointed _ _ hsome => simpa [or_iff_not_imp_left] using hsome
    refine ⟨_, ?_, toRat_of_parts negative whole part exponent⟩
    rw [parse?, List.append_assoc, signed_append hsign (unsigned_of_digitsText hbody fun c hc => (hmarks c hc).2)]
    dsimp only
    rw [htake, hfraction]
    dsimp only
    rw [if_neg hsome, exponent?_eq_some_iff.mpr hexponent]
    rfl
  · rintro ⟨x, hx, rfl⟩
    unfold parse? at hx
    cases hsigned : signed t with
    | mk negative rest =>
      rw [hsigned] at hx
      dsimp only at hx
      cases hcut : fraction (rest.dropWhile CodePoint.isDigit) with
      | mk part behind =>
        rw [hcut] at hx
        dsimp only at hx
        split_ifs at hx with hnone
        obtain ⟨exponent, hexponent, rfl⟩ := Option.map_eq_some_iff.mp hx
        obtain ⟨sign, hsign, rfl⟩ := signText_of_signed hsigned
        have hsome : rest.takeWhile CodePoint.isDigit ≠ [] ∨ part ≠ [] := by
          simpa [or_iff_not_imp_left] using hnone
        obtain ⟨body, hbody, hrest⟩ := digitsText_of_cut hcut hsome
        have hnumeral := Denotes.numeral hsign hbody (exponent?_eq_some_iff.mp hexponent)
        rw [← toRat_of_parts, List.append_assoc, ← hrest] at hnumeral
        exact hnumeral

end Decimal

end IndexOptions
