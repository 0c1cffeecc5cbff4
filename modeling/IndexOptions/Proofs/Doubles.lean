import IndexOptions.Number.Double
import Mathlib.Tactic

/-!
# Doubles that are rounded to

What a fraction is rounded to is a double of 64 bits (`Double.IsBinary64`): its significand has at most 53 bits, and its
exponent is in range. The exponent is chosen large enough for the fraction (`lt_zpow_exponentFor`), so the quotient that
is rounded stays below `2 ^ 53`, and rounding up reaches `2 ^ 53` at most (`significandFor_le`), which is `2 ^ 52` with
the next exponent (`ofRatio_eq`).
-/

namespace IndexOptions.Double

/-- The double has a layout of 64 bits. -/
def IsBinary64 : Double → Prop
  | .finite _ m e => m < 2 ^ 53 ∧ -1074 ≤ e ∧ e ≤ 971
  | _ => True

variable {n d b : Nat}

/-! ## Exponents -/

/-- The logarithms of a fraction bound it from above. -/
theorem lt_zpow_log2 (hd : d ≠ 0) : (n : ℚ) < d * 2 ^ ((n.log2 : Int) - (d.log2 : Int) + 1) := by
  have htwo : (2 : ℚ) ≠ 0 := by norm_num
  have hn : (n : ℚ) < 2 ^ (n.log2 + 1) := by exact_mod_cast Nat.lt_log2_self
  have hdlog : (2 : ℚ) ^ d.log2 ≤ d := by exact_mod_cast Nat.log2_self_le hd
  calc (n : ℚ) < 2 ^ (n.log2 + 1) := hn
    _ = 2 ^ d.log2 * 2 ^ ((n.log2 : Int) - (d.log2 : Int) + 1) := by
      rw [← zpow_natCast, ← zpow_natCast, ← zpow_add₀ htwo]
      congr 1
      push_cast
      omega
    _ ≤ d * 2 ^ ((n.log2 : Int) - (d.log2 : Int) + 1) := by gcongr

theorem lt_zpow_floorLog2 (hd : d ≠ 0) : (n : ℚ) < d * 2 ^ (floorLog2 n d + 1) := by
  have hlog : (n : ℚ) < d * 2 ^ ((n.log2 : Int) - (d.log2 : Int) + 1) := lt_zpow_log2 hd
  unfold floorLog2
  dsimp only
  generalize (n.log2 : Int) - (d.log2 : Int) = k at hlog ⊢
  split_ifs with hsign hreaches hreaches
  · exact hlog
  · have hlt : (n : ℚ) < d * 2 ^ k.toNat := by
      rw [Nat.pow_eq] at hreaches
      exact_mod_cast not_le.mp hreaches
    rw [sub_add_cancel]
    rwa [← zpow_natCast, Int.toNat_of_nonneg hsign] at hlt
  · exact hlog
  · have hlt : (n : ℚ) * 2 ^ (-k).toNat < d := by
      rw [Nat.pow_eq] at hreaches
      exact_mod_cast not_le.mp hreaches
    have hpos : (0 : ℚ) < 2 ^ k := by positivity
    rw [sub_add_cancel]
    rw [← zpow_natCast, Int.toNat_of_nonneg (by omega), zpow_neg] at hlt
    rwa [← div_eq_mul_inv, div_lt_iff₀ hpos] at hlt

/-- The exponent for a fraction leaves 53 bits for the significand. -/
theorem lt_zpow_exponentFor (hd : d ≠ 0) : (n : ℚ) < d * 2 ^ (exponentFor n d + 53) := by
  have hle : floorLog2 n d + 1 ≤ exponentFor n d + 53 := by
    unfold exponentFor
    omega
  calc (n : ℚ) < d * 2 ^ (floorLog2 n d + 1) := lt_zpow_floorLog2 hd
    _ ≤ d * 2 ^ (exponentFor n d + 53) := by
      gcongr
      norm_num

/-! ## Significands -/

/-- A quotient below a bound is rounded to the bound at most. -/
theorem roundHalfEven_le (h : n < d * b) : roundHalfEven n d ≤ b := by
  have hq : n / d < b := Nat.div_lt_of_lt_mul h
  unfold roundHalfEven
  dsimp only
  split_ifs <;> omega

/-- The significand that a fraction is rounded to, before its carry. -/
def significandFor (n d : Nat) : Nat :=
  if 0 ≤ exponentFor n d then roundHalfEven n (d * Nat.pow 2 (exponentFor n d).toNat)
  else roundHalfEven (n * Nat.pow 2 (-exponentFor n d).toNat) d

theorem significandFor_le (hd : d ≠ 0) : significandFor n d ≤ 2 ^ 53 := by
  have htwo : (2 : ℚ) ≠ 0 := by norm_num
  have hlt : (n : ℚ) < d * 2 ^ (exponentFor n d + 53) := lt_zpow_exponentFor hd
  unfold significandFor
  generalize exponentFor n d = e at hlt ⊢
  split_ifs with hsign
  · refine roundHalfEven_le ?_
    obtain ⟨k, rfl⟩ := Int.eq_ofNat_of_zero_le hsign
    rw [zpow_add₀ htwo, zpow_natCast] at hlt
    rw [Nat.pow_eq, mul_assoc]
    exact_mod_cast hlt
  · refine roundHalfEven_le ?_
    obtain ⟨k, rfl⟩ : ∃ k : Nat, e = -k := ⟨(-e).toNat, by omega⟩
    have hpos : (0 : ℚ) < 2 ^ k := by positivity
    rw [zpow_add₀ htwo, zpow_neg, zpow_natCast, mul_comm (2 ^ k : ℚ)⁻¹, ← mul_assoc, ← div_eq_mul_inv,
      lt_div_iff₀ hpos] at hlt
    rw [Nat.pow_eq, neg_neg, Int.toNat_natCast]
    exact_mod_cast hlt

/-- A fraction is rounded to its significand with its exponent, up to a carry, unless the exponent is too large. -/
theorem ofRatio_eq (negative : Bool) (hn : n ≠ 0) (d : Nat) :
    ofRatio negative n d =
      if significandFor n d = 2 ^ 53 then
        if 971 < exponentFor n d + 1 then .infinite negative else .finite negative (2 ^ 52) (exponentFor n d + 1)
      else if 971 < exponentFor n d then .infinite negative
      else .finite negative (significandFor n d) (exponentFor n d) := by
  rw [ofRatio, if_neg hn]
  dsimp only
  rw [← significandFor, Nat.pow_eq, Nat.pow_eq]
  split_ifs <;> rfl

/-! ## Rounding -/

theorem isBinary64_zero (negative : Bool) : (zero negative).IsBinary64 := by
  refine ⟨?_, ?_, ?_⟩ <;> norm_num

theorem isBinary64_ofRatio (negative : Bool) (n : Nat) (hd : d ≠ 0) : (ofRatio negative n d).IsBinary64 := by
  have hm : significandFor n d ≤ 2 ^ 53 := significandFor_le hd
  have he : -1074 ≤ exponentFor n d := by
    unfold exponentFor
    omega
  rcases eq_or_ne n 0 with rfl | hn
  · rw [ofRatio, if_pos rfl]
    exact isBinary64_zero negative
  · rw [ofRatio_eq negative hn]
    split_ifs
    · trivial
    · exact ⟨by norm_num, by omega, by omega⟩
    · trivial
    · exact ⟨by omega, by omega, by omega⟩

theorem isBinary64_ofDecimal (x : Decimal) : (ofDecimal x).IsBinary64 := by
  unfold ofDecimal
  split_ifs
  · exact isBinary64_zero _
  · trivial
  · exact isBinary64_zero _
  · exact isBinary64_ofRatio _ _ one_ne_zero
  · refine isBinary64_ofRatio _ _ ?_
    rw [Nat.pow_eq]
    positivity

theorem isBinary64_ofInt (i : Int) : (ofInt i).IsBinary64 := isBinary64_ofRatio _ _ one_ne_zero

end IndexOptions.Double
