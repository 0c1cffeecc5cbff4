import IndexOptions.Proofs.DecimalTexts
import IndexOptions.Proofs.Numerals
import IndexOptions.Proofs.Values
import Mathlib.Data.Nat.Digits.Defs

/-!
# Texts of integers

An integer numeral is an optional sign and at least one digit, with nothing around them. `Numeral.DenotesInteger` gives
this grammar together with the integer that the text denotes, in which every digit counts by its position. The reader of
integer options is exact for the numerals of 32 bits, on all texts with no more digits than it takes
(`Numeral.word?_exact`).

The reader goes through the digits from the left, so that each digit multiplies what is before it by ten. That this is
the same as counting them by position from the right is `Text.digitsValue_eq_ofDigits`.
-/

namespace IndexOptions

namespace Text

/-- The digits from the left make the number in which each of them counts by its position from the right. -/
theorem digitsValue_eq_ofDigits (digits : Text) :
    digitsValue digits = Nat.ofDigits 10 (digits.reverse.map CodePoint.digitValue) := by
  induction digits using List.reverseRecOn with
  | nil => rfl
  | append_singleton digits c ih =>
    rw [digitsValue_append_digit, ih, List.reverse_append, List.reverse_singleton, List.singleton_append, List.map_cons,
      Nat.ofDigits_cons, Nat.add_comm]

/-- Zeros on the left do not count. -/
theorem digitsValue_zeros_append (zeros : Nat) (digits : Text) :
    digitsValue (List.replicate zeros (CodePoint.ofChar '0') ++ digits) = digitsValue digits := by
  have hzero : (CodePoint.ofChar '0').digitValue = 0 := rfl
  rw [digitsValue_eq_ofDigits, digitsValue_eq_ofDigits, List.reverse_append, List.map_append, List.reverse_replicate,
    List.map_replicate, hzero, Nat.ofDigits_append_replicate_zero]

end Text

namespace Numeral

open Decimal (SignText Unsigned signed signed_append signText_of_signed unsigned_of_all_isDigit)
open Document (maxDigits)

variable {t : Text} {i : Int} {negative : Bool} {sign digits : Text}

/-! ## The grammar -/

/-- The integer of a sign and digits. -/
def signedValue (negative : Bool) (digits : Text) : Int :=
  let n : Nat := Nat.ofDigits 10 (digits.reverse.map CodePoint.digitValue)
  if negative then -n else n

/-- A text is an integer numeral, and denotes an integer. -/
inductive DenotesInteger : Text → Int → Prop
  | numeral {negative : Bool} {sign digits : Text} (hsign : SignText negative sign)
    (hdigits : digits.all CodePoint.isDigit) (hsome : digits ≠ []) :
    DenotesInteger (sign ++ digits) (signedValue negative digits)

/-! ## Reading without a bound -/

theorem unsigned_of_digits (hdigits : digits.all CodePoint.isDigit) : Unsigned digits := by
  rw [← List.append_nil digits]
  exact unsigned_of_all_isDigit hdigits (by simp [Unsigned])

/-- A numeral with few enough digits is read as the integer that it denotes. -/
theorem integer?_append (hsign : SignText negative sign) (hdigits : digits.all CodePoint.isDigit) (hsome : digits ≠ [])
    (hfew : digits.length ≤ maxDigits) : integer? (sign ++ digits) = .ok (some (signedValue negative digits)) := by
  unfold integer?
  rw [signed_append hsign (unsigned_of_digits hdigits)]
  simp only [List.isEmpty_eq_false_iff.mpr hsome, hdigits, Bool.not_true, Bool.or_false, Bool.false_eq_true, if_false]
  rw [if_neg (Nat.not_lt.mpr hfew), Text.digitsValue_eq_ofDigits]
  rfl

/-- A text that ends the reading or is read as an integer is a numeral. -/
theorem exists_denotesInteger (h : integer? t ≠ .ok none) : ∃ i, DenotesInteger t i := by
  unfold integer? at h
  cases hsigned : signed t with
  | mk negative digits =>
    rw [hsigned] at h
    dsimp only at h
    split at h
    · exact absurd rfl h
    · next hform =>
      simp only [Bool.or_eq_true, not_or, Bool.not_eq_true, Bool.not_eq_false', List.isEmpty_eq_false_iff] at hform
      obtain ⟨hsome, hdigits⟩ := hform
      obtain ⟨sign, hsign, rfl⟩ := signText_of_signed hsigned
      exact ⟨_, .numeral hsign hdigits hsome⟩

theorem integer?_of_not_denotesInteger (h : ∀ i, ¬DenotesInteger t i) : integer? t = .ok none := by
  by_contra hread
  obtain ⟨i, hi⟩ := exists_denotesInteger hread
  exact h i hi

/-- The digits of a numeral are among those of the text. -/
theorem integer?_of_denotesInteger (h : DenotesInteger t i) (hfew : t.countP CodePoint.isDigit ≤ maxDigits) :
    integer? t = .ok (some i) := by
  cases h with
  | @numeral negative sign digits hsign hdigits hsome =>
    refine integer?_append hsign hdigits hsome (Nat.le_trans ?_ hfew)
    calc digits.length
      _ = digits.countP CodePoint.isDigit := (List.countP_eq_length.mpr (List.all_eq_true.mp hdigits)).symm
      _ ≤ (sign ++ digits).countP CodePoint.isDigit := by rw [List.countP_append]; exact Nat.le_add_left _ _

/-! ## Integers of 32 bits -/

theorem word?_of_integer? (h : integer? t = .ok (some i)) : word? t = .ok (if isWord i then some i else none) := by
  rw [word?, h]
  simp only [Except.map, Option.filter_some]

theorem word?_of_denotesInteger (h : DenotesInteger t i) (hfew : t.countP CodePoint.isDigit ≤ maxDigits) :
    word? t = .ok (if isWord i then some i else none) :=
  word?_of_integer? (integer?_of_denotesInteger h hfew)

theorem word?_of_not_denotesInteger (h : ∀ i, ¬DenotesInteger t i) : word? t = .ok none := by
  rw [word?, integer?_of_not_denotesInteger h]
  rfl

/-- An integer is read exactly from its numerals. -/
theorem word?_eq_some_iff (hfew : t.countP CodePoint.isDigit ≤ maxDigits) :
    word? t = .ok (some i) ↔ DenotesInteger t i ∧ isWord i := by
  constructor
  · intro h
    by_cases hnumeral : ∃ j, DenotesInteger t j
    · obtain ⟨j, hj⟩ := hnumeral
      rw [word?_of_denotesInteger hj hfew] at h
      split at h
      · next hword =>
        cases h
        exact ⟨hj, hword⟩
      · cases h
    · rw [word?_of_not_denotesInteger (not_exists.mp hnumeral)] at h
      cases h
  · rintro ⟨hi, hword⟩
    rw [word?_of_denotesInteger hi hfew, if_pos hword]

/-- Every other text gives none. -/
theorem word?_eq_none_iff (hfew : t.countP CodePoint.isDigit ≤ maxDigits) :
    word? t = .ok none ↔ ∀ i, DenotesInteger t i → ¬isWord i := by
  constructor
  · intro h i hi hword
    rw [word?_of_denotesInteger hi hfew, if_pos hword] at h
    cases h
  · intro h
    by_cases hnumeral : ∃ j, DenotesInteger t j
    · obtain ⟨j, hj⟩ := hnumeral
      rw [word?_of_denotesInteger hj hfew, if_neg (h j hj)]
    · exact word?_of_not_denotesInteger (not_exists.mp hnumeral)

/-! ## Other numerals of the same integer -/

/-- Zeros on the left do not change the integer. -/
theorem signedValue_zeros_append (negative : Bool) (zeros : Nat) (digits : Text) :
    signedValue negative (List.replicate zeros (CodePoint.ofChar '0') ++ digits) = signedValue negative digits := by
  have h := Text.digitsValue_zeros_append zeros digits
  rw [Text.digitsValue_eq_ofDigits, Text.digitsValue_eq_ofDigits] at h
  rw [signedValue, signedValue, h]

theorem denotesInteger_zeros (hsign : SignText negative sign) (hdigits : digits.all CodePoint.isDigit)
    (hsome : digits ≠ []) (zeros : Nat) :
    DenotesInteger (sign ++ (List.replicate zeros (CodePoint.ofChar '0') ++ digits)) (signedValue negative digits) := by
  have hall : (List.replicate zeros (CodePoint.ofChar '0') ++ digits).all CodePoint.isDigit := by
    rw [List.all_append, hdigits, Bool.and_true, List.all_replicate]
    split
    · rfl
    · decide
  rw [← signedValue_zeros_append negative zeros digits]
  exact .numeral hsign hall (List.append_ne_nil_of_right_ne_nil _ hsome)

theorem word?_zeros (hsign : SignText negative sign) (hdigits : digits.all CodePoint.isDigit) (hsome : digits ≠ [])
    {zeros : Nat}
    (hfew : (sign ++ (List.replicate zeros (CodePoint.ofChar '0') ++ digits)).countP CodePoint.isDigit ≤ maxDigits) :
    word? (sign ++ (List.replicate zeros (CodePoint.ofChar '0') ++ digits)) = word? (sign ++ digits) := by
  have hfewer : (sign ++ digits).countP CodePoint.isDigit ≤ maxDigits := by
    simp only [List.countP_append] at hfew ⊢
    omega
  rw [word?_of_denotesInteger (denotesInteger_zeros hsign hdigits hsome zeros) hfew,
    word?_of_denotesInteger (.numeral hsign hdigits hsome) hfewer]

theorem word?_plus (hdigits : digits.all CodePoint.isDigit) (hfew : digits.countP CodePoint.isDigit ≤ maxDigits) :
    word? (CodePoint.ofChar '+' :: digits) = word? digits := by
  by_cases hsome : digits = []
  · rw [hsome]
    rfl
  · have hplus : (CodePoint.ofChar '+' :: digits).countP CodePoint.isDigit ≤ maxDigits := by
      rw [List.countP_cons_of_neg (by decide)]
      exact hfew
    have hsigned : DenotesInteger (CodePoint.ofChar '+' :: digits) (signedValue false digits) :=
      .numeral .plus hdigits hsome
    have hunsigned : DenotesInteger digits (signedValue false digits) := .numeral .none hdigits hsome
    rw [word?_of_denotesInteger hsigned hplus, word?_of_denotesInteger hunsigned hfew]

/-! ## Exactness -/

/-- **The integers of 32 bits are read from their numerals, and from nothing else.** On a text with at most 4300 digits
the reader gives an integer exactly if the text is an optional sign and digits that denote it, and it has 32 bits; it
gives none for every other text. So zeros on the left and a plus sign do not matter, and each integer of 32 bits is read
from its decimal text. -/
theorem word?_exact (h : t.countP CodePoint.isDigit ≤ 4300) :
    (∀ i, word? t = .ok (some i) ↔ DenotesInteger t i ∧ -2 ^ 31 ≤ i ∧ i ≤ 2 ^ 31 - 1) ∧
      (word? t = .ok none ↔ ∀ i, DenotesInteger t i → ¬(-2 ^ 31 ≤ i ∧ i ≤ 2 ^ 31 - 1)) ∧
      (∀ negative sign zeros digits, SignText negative sign → digits.all CodePoint.isDigit → digits ≠ [] →
        t = sign ++ (List.replicate zeros (CodePoint.ofChar '0') ++ digits) → word? t = word? (sign ++ digits)) ∧
      (∀ digits, digits.all CodePoint.isDigit → t = CodePoint.ofChar '+' :: digits → word? t = word? digits) ∧
      ∀ i, -2 ^ 31 ≤ i → i ≤ 2 ^ 31 - 1 → word? (Text.ofInt i) = .ok (some i) := by
  refine ⟨fun i => ?_, ?_, ?_, ?_, ?_⟩
  · rw [word?_eq_some_iff h, isWord_iff]
  · rw [word?_eq_none_iff h]
    simp only [isWord_iff]
  · rintro negative sign zeros digits hsign hdigits hsome rfl
    exact word?_zeros hsign hdigits hsome h
  · rintro digits hdigits rfl
    rw [List.countP_cons_of_neg (by decide)] at h
    exact word?_plus hdigits h
  · intro i hleast hmost
    exact word?_ofInt (isWord_iff.mpr ⟨hleast, hmost⟩)

/-- A numeral of the least integer of 32 bits, with zeros on the left. -/
def leastWord : Text := "-0002147483648"

/-- The least integer is read from its numeral, with the zeros on the left as without them. -/
theorem word?_exact_leastWord :
    leastWord.countP CodePoint.isDigit ≤ 4300 ∧ DenotesInteger leastWord (-2 ^ 31) ∧
      word? leastWord = .ok (some (-2 ^ 31)) ∧ word? leastWord = word? "-2147483648" := by
  have hfew : leastWord.countP CodePoint.isDigit ≤ 4300 := by decide
  have hdigits : (Text.ofString "0002147483648").all CodePoint.isDigit := by decide
  have hleast : DenotesInteger leastWord (-2 ^ 31) := .numeral .minus hdigits (by decide)
  obtain ⟨hread, -, hzeros, -, -⟩ := word?_exact hfew
  refine ⟨hfew, hleast, (hread _).mpr ⟨hleast, by norm_num, by norm_num⟩, ?_⟩
  exact hzeros true "-" 3 "2147483648" .minus (by decide) (by decide) rfl

end Numeral

end IndexOptions
