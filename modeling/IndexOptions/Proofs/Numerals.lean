import IndexOptions.Options.Values
import Mathlib.Algebra.Group.Int.Defs

/-!
# Decimal texts of integers

The decimal text of a number has digits only (`all_isDigit_ofNat`), as many as its size asks for (`length_ofNat_le`),
and they denote the number (`digitsValue_ofNat`). So an integer of 32 bits is read from its decimal text
(`Numeral.word?_ofInt`).
-/

namespace IndexOptions

namespace CodePoint

theorem val_ofDigit {d : Nat} (h : d < 10) : (ofDigit d).val = 48 + d := val_ofNat (by omega)

theorem isDigit_ofDigit {d : Nat} (h : d < 10) : (ofDigit d).isDigit := by
  simp only [isDigit, val_ofDigit h, Bool.and_eq_true, decide_eq_true_eq]
  omega

theorem digitValue_ofDigit {d : Nat} (h : d < 10) : (ofDigit d).digitValue = d := by
  rw [digitValue, val_ofDigit h]
  omega

end CodePoint

namespace Text

open CodePoint

/-! ## Digits of a number -/

theorem all_isDigit_ofNat (n : Nat) : (ofNat n).all isDigit := by
  induction n using ofNat.induct with
  | case1 n h =>
    rw [ofNat, if_pos h, List.all_cons, isDigit_ofDigit h]
    rfl
  | case2 n h ih =>
    rw [ofNat, if_neg h, List.all_append, ih, List.all_cons, isDigit_ofDigit (Nat.mod_lt n (by decide))]
    rfl

theorem ofNat_ne_nil (n : Nat) : ofNat n ≠ [] := by
  rw [ofNat]
  split <;> simp

theorem digitsValue_append_digit (t : Text) (c : CodePoint) :
    digitsValue (t ++ [c]) = 10 * digitsValue t + c.digitValue := by
  simp [digitsValue]

/-- The digits of a number denote it. -/
theorem digitsValue_ofNat (n : Nat) : digitsValue (ofNat n) = n := by
  induction n using ofNat.induct with
  | case1 n h =>
    rw [ofNat, if_pos h]
    simp [digitsValue, digitValue_ofDigit h]
  | case2 n h ih =>
    rw [ofNat, if_neg h, digitsValue_append_digit, ih, digitValue_ofDigit (Nat.mod_lt n (by decide))]
    omega

/-- A number has no more digits than the power of ten that bounds it. -/
theorem length_ofNat_le {n k : Nat} (hk : 0 < k) (h : n < Nat.pow 10 k) : (ofNat n).length ≤ k := by
  induction k generalizing n with
  | zero => cases hk
  | succ k ih =>
    rw [ofNat]
    split
    · simp
    · next hn =>
      have hpow : Nat.pow 10 (k + 1) = Nat.pow 10 k * 10 := rfl
      have hdiv : n / 10 < Nat.pow 10 k := Nat.div_lt_of_lt_mul (by omega)
      have hk : 0 < k := by
        rcases Nat.eq_zero_or_pos k with rfl | hk
        · have hten : n < 10 := h
          exact absurd hten hn
        · exact hk
      simpa using ih hk hdiv

/-! ## The sign -/

/-- The decimal text of an integer is its sign and the digits of its absolute value. -/
theorem signed_ofInt (i : Int) : Decimal.signed (ofInt i) = (decide (i < 0), ofNat i.natAbs) := by
  cases i with
  | ofNat n =>
    show Decimal.signed (ofNat n) = (false, ofNat n)
    have hdigits := all_isDigit_ofNat n
    cases hn : ofNat n with
    | nil => exact absurd hn (ofNat_ne_nil n)
    | cons c r =>
      have hc : c.isDigit := by
        rw [hn, List.all_cons, Bool.and_eq_true] at hdigits
        exact hdigits.1
      have hminus : c ≠ CodePoint.ofChar '-' := by
        rintro rfl
        revert hc
        decide
      have hplus : c ≠ CodePoint.ofChar '+' := by
        rintro rfl
        revert hc
        decide
      rw [Decimal.signed, if_neg hminus, if_neg hplus]
  | negSucc n =>
    rw [ofInt, Decimal.signed, if_pos rfl, decide_eq_true (Int.negSucc_lt_zero n)]
    rfl

end Text

namespace Numeral

open Text

/-! ## Integers of 32 bits -/

theorem isWord_iff {i : Int} : isWord i ↔ -2 ^ 31 ≤ i ∧ i ≤ 2 ^ 31 - 1 := by
  simp [isWord]

/-- An integer of 32 bits is read from its decimal text. -/
theorem word?_ofInt {i : Int} (h : isWord i) : word? (ofInt i) = .ok (some i) := by
  have hbounds : -2 ^ 31 ≤ i ∧ i ≤ 2 ^ 31 - 1 := isWord_iff.mp h
  have hpow : i.natAbs < 10000000000 := by omega
  have hlength : (ofNat i.natAbs).length ≤ 10 := length_ofNat_le (by decide) hpow
  have hnil : (ofNat i.natAbs).isEmpty = false := List.isEmpty_eq_false_iff.mpr (ofNat_ne_nil _)
  have hread : integer? (ofInt i) = .ok (some i) := by
    unfold integer?
    rw [signed_ofInt]
    simp only [hnil, all_isDigit_ofNat, Bool.not_true, Bool.or_false, Bool.false_eq_true, if_false, digitsValue_ofNat,
      decide_eq_true_eq]
    rw [if_neg (by unfold Document.maxDigits; omega)]
    split
    · congr 2
      omega
    · congr 2
      omega
  rw [word?, hread]
  simp [Except.map, Option.filter, h]

end Numeral

end IndexOptions
