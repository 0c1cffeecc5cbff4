import IndexOptions.Proofs.DecimalTexts
import IndexOptions.Proofs.Doubles

/-!
# Rounding to the nearest double

The double that a decimal is rounded to is the nearest of all doubles of 64 bits, and the one with the even significand
if two are as near (`Double.IsNearest`). Only a decimal of at least `2 ^ 1024 - 2 ^ 970` is too large for that and gives
an infinity (`ofDecimal_rounds`). The nearest double is positive exactly above `2 ^ -1075` (`IsNearest.isPositive_iff`).

The doubles with the exponent of a fraction, or a larger one, are multiples of one power of two, and a quotient that is
rounded to an integer is nearer to it than to any other (`Rounds.nearest`). The doubles with a smaller exponent are all
below `2 ^ 52` times this power, while the fraction is not (`zpow_exponentFor_le`), so they are farther away
(`nearest_of_rounds`).
-/

namespace IndexOptions.Double

open Decimal (signFactor)

variable {n d m : Nat} {e : Int} {q r : ℚ}

/-! ## Numbers of doubles -/

/-- The number of a finite double. -/
def value : Double → ℚ
  | .finite negative m e => signFactor negative * (m * 2 ^ e)
  | _ => 0

def significand : Double → Nat
  | .finite _ m _ => m
  | _ => 0

/-- The exponent is the least possible one. -/
def IsCanonical : Double → Prop
  | .finite _ m e => -1074 < e → 2 ^ 52 ≤ m
  | _ => True

/-- The double is the nearest to a number, and its significand is even if another one is as near. -/
structure IsNearest (x : Double) (r : ℚ) : Prop where
  isFinite : x.isFinite
  isBinary64 : x.IsBinary64
  isCanonical : x.IsCanonical
  nearest : ∀ y : Double, y.isFinite → y.IsBinary64 → |x.value - r| ≤ |y.value - r|
  even : ∀ y : Double, y.isFinite → y.IsBinary64 → y.value ≠ x.value → |y.value - r| = |x.value - r| →
    x.significand % 2 = 0

/-- The number of a finite double, but for the upper bound of its exponent. -/
def IsGrid (v : ℚ) : Prop := ∃ (negative : Bool) (m : Nat) (e : Int), m < 2 ^ 53 ∧ -1074 ≤ e ∧
  v = signFactor negative * (m * 2 ^ e)

theorem isGrid_value {y : Double} (hf : y.isFinite) (hb : y.IsBinary64) : IsGrid y.value := by
  cases y with
  | finite negative m e => exact ⟨negative, m, e, hb.1, hb.2.1, rfl⟩
  | nan | infinite => cases hf

theorem isGrid_signFactor_mul (negative : Bool) {v : ℚ} (h : IsGrid v) : IsGrid (signFactor negative * v) := by
  obtain ⟨negative', m, e, hm, he, rfl⟩ := h
  cases negative with
  | false => exact ⟨negative', m, e, hm, he, by simp [signFactor]⟩
  | true => exact ⟨!negative', m, e, hm, he, by cases negative' <;> simp [signFactor]⟩

theorem signFactor_mul_self (negative : Bool) : signFactor negative * signFactor negative = 1 := by
  cases negative <;> simp [signFactor]

theorem abs_signFactor (negative : Bool) : |signFactor negative| = 1 := by
  cases negative <;> simp [signFactor]

/-! ## Quotients -/

/-- The integer is the nearest to a number, and even if another one is as near. -/
def Rounds (m : Nat) (q : ℚ) : Prop := |(m : ℚ) - q| ≤ 1 / 2 ∧ (|(m : ℚ) - q| = 1 / 2 → m % 2 = 0)

theorem rounds_roundHalfEven (n : Nat) (hd : d ≠ 0) : Rounds (roundHalfEven n d) (n / d) := by
  have hpos : (0 : ℚ) < d := by positivity
  have hsplit : (n : ℚ) / d = (n / d : Nat) + (n % d : Nat) / d := by
    rw [div_eq_iff hpos.ne', add_mul, div_mul_cancel₀ _ hpos.ne']
    exact_mod_cast (Nat.div_add_mod' n d).symm
  have hnonneg : (0 : ℚ) ≤ (n % d : Nat) / d := by positivity
  have hlt : ((n % d : Nat) : ℚ) / d < 1 := by
    rw [div_lt_one hpos]
    exact_mod_cast Nat.mod_lt n (Nat.pos_of_ne_zero hd)
  unfold Rounds roundHalfEven
  dsimp only
  rw [hsplit]
  generalize n / d = k
  generalize n % d = rest at hnonneg hlt ⊢
  split_ifs with hlow hhigh
  · have hhalf : (rest : ℚ) / d < 1 / 2 := by
      rw [div_lt_iff₀ hpos]
      have : (2 : ℚ) * rest < d := by exact_mod_cast hlow
      linarith
    rw [sub_add_cancel_left, abs_neg, abs_of_nonneg hnonneg]
    exact ⟨hhalf.le, fun h => absurd h hhalf.ne⟩
  · have hhalf : 1 / 2 < (rest : ℚ) / d := by
      rw [lt_div_iff₀ hpos]
      have : (d : ℚ) < 2 * rest := by exact_mod_cast hhigh
      linarith
    rw [Nat.cast_add, Nat.cast_one, add_sub_add_left_eq_sub, abs_of_pos (by linarith)]
    exact ⟨by linarith, fun h => by linarith⟩
  · have hhalf : (rest : ℚ) / d = 1 / 2 := by
      rw [div_eq_iff hpos.ne']
      have : (2 : ℚ) * rest = d := by exact_mod_cast (show 2 * rest = d by omega)
      linarith
    refine ⟨?_, fun _ => by omega⟩
    rw [hhalf, Nat.cast_add, add_sub_add_left_eq_sub, abs_le]
    rcases Nat.mod_two_eq_zero_or_one k with hk | hk <;> rw [hk] <;> norm_num

/-- No integer is nearer than the one that is rounded to. -/
theorem Rounds.nearest (h : Rounds m q) (j : Int) :
    |(m : ℚ) - q| ≤ |(j : ℚ) - q| ∧ (|(j : ℚ) - q| = |(m : ℚ) - q| → (j : ℚ) ≠ m → m % 2 = 0) := by
  by_cases hj : j = m
  · rw [hj]
    exact ⟨le_rfl, fun _ hne => absurd rfl hne⟩
  · have hone : (1 : ℚ) ≤ |(j : ℚ) - m| := by
      exact_mod_cast Int.one_le_abs (sub_ne_zero.mpr hj)
    have htriangle : |(j : ℚ) - m| ≤ |(j : ℚ) - q| + |(m : ℚ) - q| := by
      rw [abs_sub_comm (m : ℚ) q]
      exact abs_sub_le _ _ _
    exact ⟨by linarith [h.1], fun htie _ => h.2 (by linarith [h.1])⟩

/-! ## The exponent of a fraction -/

/-- The logarithms of a fraction bound it from below. -/
theorem zpow_log2_lt (hn : n ≠ 0) (d : Nat) : d * 2 ^ ((n.log2 : Int) - (d.log2 : Int) - 1) < (n : ℚ) := by
  have htwo : (2 : ℚ) ≠ 0 := by norm_num
  have hd : (d : ℚ) < 2 ^ (d.log2 + 1) := by exact_mod_cast Nat.lt_log2_self
  have hnlog : (2 : ℚ) ^ n.log2 ≤ n := by exact_mod_cast Nat.log2_self_le hn
  calc (d : ℚ) * 2 ^ ((n.log2 : Int) - (d.log2 : Int) - 1)
      < 2 ^ (d.log2 + 1) * 2 ^ ((n.log2 : Int) - (d.log2 : Int) - 1) := by gcongr
    _ = 2 ^ n.log2 := by
      rw [← zpow_natCast, ← zpow_natCast, ← zpow_add₀ htwo]
      congr 1
      push_cast
      omega
    _ ≤ n := hnlog

theorem zpow_floorLog2_le (hn : n ≠ 0) (d : Nat) : d * 2 ^ floorLog2 n d ≤ (n : ℚ) := by
  have hlog : d * 2 ^ ((n.log2 : Int) - (d.log2 : Int) - 1) < (n : ℚ) := zpow_log2_lt hn d
  unfold floorLog2
  dsimp only
  generalize (n.log2 : Int) - (d.log2 : Int) = k at hlog ⊢
  split_ifs with hsign hreaches hreaches
  · obtain ⟨k, rfl⟩ := Int.eq_ofNat_of_zero_le hsign
    rw [Nat.pow_eq, Int.toNat_natCast] at hreaches
    rw [zpow_natCast]
    exact_mod_cast hreaches
  · exact hlog.le
  · obtain ⟨k, rfl⟩ : ∃ k' : Nat, k = -k' := ⟨(-k).toNat, by omega⟩
    have hpos : (0 : ℚ) < 2 ^ k := by positivity
    rw [Nat.pow_eq, neg_neg, Int.toNat_natCast] at hreaches
    rw [zpow_neg, zpow_natCast, ← div_eq_mul_inv, div_le_iff₀ hpos]
    exact_mod_cast hreaches
  · exact hlog.le

/-- Above the least exponent, the exponent for a fraction is small enough for 53 bits in the significand. -/
theorem zpow_exponentFor_le (hn : n ≠ 0) (hd : d ≠ 0) (h : -1074 < exponentFor n d) :
    2 ^ 52 ≤ (n : ℚ) / d / 2 ^ exponentFor n d := by
  have hpos : (0 : ℚ) < d := by positivity
  have he : floorLog2 n d = 52 + exponentFor n d := by
    unfold exponentFor at h ⊢
    omega
  have hle : d * 2 ^ floorLog2 n d ≤ (n : ℚ) := zpow_floorLog2_le hn d
  rw [le_div_iff₀ (by positivity), le_div_iff₀ hpos]
  calc (2 : ℚ) ^ 52 * 2 ^ exponentFor n d * d = d * 2 ^ floorLog2 n d := by
        rw [he, zpow_add₀ two_ne_zero, mul_comm]
        norm_cast
    _ ≤ n := hle

theorem div_zpow_exponentFor_lt (hd : d ≠ 0) : (n : ℚ) / d / 2 ^ exponentFor n d < 2 ^ 53 := by
  have hpos : (0 : ℚ) < d := by positivity
  rw [div_lt_iff₀ (by positivity), div_lt_iff₀ hpos]
  calc (n : ℚ) < d * 2 ^ (exponentFor n d + 53) := lt_zpow_exponentFor hd
    _ = 2 ^ 53 * 2 ^ exponentFor n d * d := by
      rw [zpow_add₀ two_ne_zero]
      norm_cast
      ring

/-! ## The significand of a fraction -/

theorem rounds_significandFor (n : Nat) (hd : d ≠ 0) :
    Rounds (significandFor n d) (n / d / 2 ^ exponentFor n d) := by
  unfold significandFor
  generalize exponentFor n d = e
  split_ifs with hsign
  · obtain ⟨k, rfl⟩ := Int.eq_ofNat_of_zero_le hsign
    rw [Int.toNat_natCast, Nat.pow_eq, zpow_natCast, div_div]
    exact_mod_cast rounds_roundHalfEven n (mul_ne_zero hd (by positivity))
  · obtain ⟨k, rfl⟩ : ∃ k : Nat, e = -k := ⟨(-e).toNat, by omega⟩
    rw [neg_neg, Int.toNat_natCast, Nat.pow_eq, zpow_neg, zpow_natCast, div_inv_eq_mul, div_mul_eq_mul_div]
    exact_mod_cast rounds_roundHalfEven (n * 2 ^ k) hd

/-! ## The nearest number -/

/-- Such a number is a multiple of a power of two, or its exponent is smaller. -/
theorem IsGrid.multiple_or_lt {v : ℚ} (h : IsGrid v) (e : Int) :
    (∃ j : Int, v = j * 2 ^ e) ∨ (-1074 < e ∧ v < 2 ^ 52 * 2 ^ e) := by
  obtain ⟨negative, m, e', hm, he', rfl⟩ := h
  by_cases hle : e ≤ e'
  · obtain ⟨k, rfl⟩ := Int.le.dest hle
    refine .inl ⟨(if negative then -1 else 1) * (m * 2 ^ k), ?_⟩
    rw [zpow_add₀ two_ne_zero, zpow_natCast]
    unfold signFactor
    push_cast
    ring
  · have hm' : (m : ℚ) < 2 ^ 53 := by exact_mod_cast hm
    have hsign : signFactor negative ≤ 1 := by
      unfold signFactor
      split_ifs <;> norm_num
    refine .inr ⟨by omega, ?_⟩
    calc signFactor negative * (m * 2 ^ e') ≤ 1 * (m * 2 ^ e') := by gcongr
      _ = m * 2 ^ e' := one_mul _
      _ < 2 ^ 53 * 2 ^ e' := by gcongr
      _ = 2 ^ 52 * 2 ^ (e' + 1) := by
        rw [zpow_add_one₀ two_ne_zero]
        ring
      _ ≤ 2 ^ 52 * 2 ^ e := by
        gcongr
        · norm_num
        · omega

/-- What a quotient by a power of two is rounded to gives the nearest number. -/
theorem nearest_of_rounds {v : ℚ} (hrounds : Rounds m (r / 2 ^ e)) (hlow : -1074 < e → 2 ^ 52 ≤ r / 2 ^ e)
    (hv : IsGrid v) :
    |m * 2 ^ e - r| ≤ |v - r| ∧ (|v - r| = |m * 2 ^ e - r| → v ≠ m * 2 ^ e → m % 2 = 0) := by
  have hpow : (0 : ℚ) < 2 ^ e := by positivity
  have hscale : ∀ w : ℚ, |w * 2 ^ e - r| = |w - r / 2 ^ e| * 2 ^ e := by
    intro w
    rw [← abs_of_pos hpow, ← abs_mul, abs_of_pos hpow, sub_mul, div_mul_cancel₀ _ hpow.ne']
  rcases hv.multiple_or_lt e with ⟨j, rfl⟩ | ⟨he, hlt⟩
  · obtain ⟨hle, htie⟩ := hrounds.nearest j
    rw [hscale, hscale]
    refine ⟨by gcongr, fun heq hne => htie (mul_right_cancel₀ hpow.ne' heq) fun hj => hne ?_⟩
    rw [hj]
  · -- a smaller number is still farther away than the least significand
    obtain ⟨hle, -⟩ := hrounds.nearest (2 ^ 52)
    have hfar : |(2 : ℚ) ^ 52 * 2 ^ e - r| < |v - r| := by
      have hr : 2 ^ 52 * 2 ^ e ≤ r := (le_div_iff₀ hpow).mp (hlow he)
      rw [abs_of_nonpos (by linarith), abs_of_neg (by linarith)]
      linarith
    have hclose : |m * 2 ^ e - r| < |v - r| := by
      refine lt_of_le_of_lt ?_ hfar
      rw [hscale, hscale]
      exact mul_le_mul_of_nonneg_right (by exact_mod_cast hle) hpow.le
    exact ⟨hclose.le, fun heq => absurd heq hclose.ne'⟩

/-- Such a number is not smaller than the smallest positive double, unless it is zero. -/
theorem IsGrid.le_abs {v : ℚ} (h : IsGrid v) (hv : v ≠ 0) : 2 ^ (-1074 : Int) ≤ |v| := by
  obtain ⟨negative, m, e, -, he, rfl⟩ := h
  have hm : (1 : ℚ) ≤ m := by
    have hm0 : m ≠ 0 := by
      rintro rfl
      simp at hv
    exact_mod_cast Nat.one_le_iff_ne_zero.mpr hm0
  rw [abs_mul, abs_signFactor, one_mul, abs_of_nonneg (by positivity)]
  calc (2 : ℚ) ^ (-1074 : Int) ≤ 2 ^ e := by
        gcongr
        norm_num
    _ ≤ m * 2 ^ e := le_mul_of_one_le_left (by positivity) hm

theorem zpow_least : (2 : ℚ) ^ (-1074 : Int) = 2 ^ (-1075 : Int) + 2 ^ (-1075 : Int) := by
  have htwo : (2 : ℚ) ≠ 0 := two_ne_zero
  rw [← mul_two]
  exact zpow_add_one₀ htwo (-1075)

/-- Up to half of the smallest double, zero is the nearest. -/
theorem isNearest_zero (negative : Bool) (h : |r| ≤ 2 ^ (-1075 : Int)) : (zero negative).IsNearest r := by
  have hvalue : (zero negative).value = 0 := by simp [zero, value]
  refine ⟨rfl, isBinary64_zero negative, fun h => absurd h (by decide), fun y hf hb => ?_, fun _ _ _ _ _ => rfl⟩
  rw [hvalue, zero_sub, abs_neg]
  rcases eq_or_ne y.value 0 with hy | hy
  · rw [hy, zero_sub, abs_neg]
  · have hfar : 2 ^ (-1074 : Int) ≤ |y.value| := (isGrid_value hf hb).le_abs hy
    rw [zpow_least] at hfar
    linarith [abs_sub_abs_le_abs_sub y.value r]

/-! ## Overflow -/

/-- The bound of the finite doubles lies half way between the largest one and the next power of two. -/
theorem finiteBound_eq : (2 : ℚ) ^ 1024 - 2 ^ 970 = (2 ^ 53 - 1 / 2) * 2 ^ (971 : Int) := by
  have htop : (2 : ℚ) ^ 1024 = 2 ^ 54 * 2 ^ 970 := pow_add 2 54 970
  rw [htop, show (971 : Int) = (970 + 1 : Nat) from rfl, zpow_natCast, pow_succ _ 970]
  generalize (2 : ℚ) ^ 970 = p
  ring

theorem lt_of_exponent_lt {k : Int} (he : e < k) (h : r / 2 ^ e < 2 ^ 53) : r < (2 ^ 53 - 1 / 2) * 2 ^ k := by
  calc r < 2 ^ 53 * 2 ^ e := (div_lt_iff₀ (by positivity)).mp h
    _ = 2 ^ 52 * 2 ^ (e + 1) := by
      rw [zpow_add_one₀ two_ne_zero]
      ring
    _ ≤ (2 ^ 53 - 1 / 2) * 2 ^ k := by
      gcongr
      · norm_num
      · norm_num
      · omega

theorem le_of_lt_exponent {k : Int} (he : k < e) (h : 2 ^ 52 ≤ r / 2 ^ e) : (2 ^ 53 - 1 / 2) * 2 ^ k ≤ r := by
  calc ((2 : ℚ) ^ 53 - 1 / 2) * 2 ^ k ≤ 2 ^ 53 * 2 ^ k := by
        gcongr
        norm_num
    _ = 2 ^ 52 * 2 ^ (k + 1) := by
      rw [zpow_add_one₀ two_ne_zero]
      ring
    _ ≤ 2 ^ 52 * 2 ^ e := by
      gcongr
      · norm_num
      · omega
    _ ≤ r := (le_div_iff₀ (by positivity)).mp h

/-- The largest significand is odd, so a quotient half way to the next one is rounded up. -/
theorem Rounds.eq_carry_iff (h : Rounds m q) (hle : m ≤ 2 ^ 53) : m = 2 ^ 53 ↔ 2 ^ 53 - 1 / 2 ≤ q := by
  obtain ⟨hlow, hhigh⟩ := abs_le.mp h.1
  constructor
  · intro hm
    have : (m : ℚ) = 2 ^ 53 := by exact_mod_cast hm
    linarith
  · intro hq
    have : (2 : ℚ) ^ 53 ≤ (m + 1 : Nat) := by
      push_cast
      linarith
    have hm : 2 ^ 53 ≤ m + 1 := by exact_mod_cast this
    by_contra hne
    have hodd : m = 2 ^ 53 - 1 := by omega
    have hcast : (m : ℚ) = 2 ^ 53 - 1 := by
      rw [hodd]
      norm_num
    have := h.2 (by rw [abs_of_nonpos (by linarith)]; linarith)
    omega

/-- Half of the smallest double is below the bound. -/
theorem zpow_lt_finiteBound : (2 : ℚ) ^ (-1075 : Int) < 2 ^ 1024 - 2 ^ 970 := by
  rw [finiteBound_eq]
  exact lt_of_exponent_lt (e := -1075) (by norm_num) (by rw [div_self (by positivity)]; norm_num)

/-! ## Fractions -/

/-- **The bound of the finite doubles.** Only a fraction of at least `2 ^ 1024 - 2 ^ 970` is rounded to an infinity. -/
theorem isFinite_ofRatio_iff (negative : Bool) (n : Nat) (hd : d ≠ 0) :
    (ofRatio negative n d).isFinite ↔ (n : ℚ) / d < 2 ^ 1024 - 2 ^ 970 := by
  rw [finiteBound_eq]
  have hpow : (0 : ℚ) < 2 ^ (971 : Int) := zpow_pos two_pos 971
  rcases eq_or_ne n 0 with rfl | hn
  · rw [ofRatio, if_pos rfl, Nat.cast_zero, zero_div]
    exact iff_of_true rfl (mul_pos (by norm_num) hpow)
  · have hcarry := (rounds_significandFor n hd).eq_carry_iff (significandFor_le hd)
    have hupper := div_zpow_exponentFor_lt (n := n) hd
    have hlower := zpow_exponentFor_le hn hd
    rw [ofRatio_eq negative hn]
    generalize significandFor n d = m at hcarry ⊢
    generalize exponentFor n d = e at hcarry hupper hlower ⊢
    rcases lt_trichotomy e 971 with he | rfl | he
    · rw [if_neg (show ¬971 < e + 1 by omega), if_neg (show ¬971 < e by omega)]
      refine iff_of_true ?_ (lt_of_exponent_lt he hupper)
      split_ifs <;> rfl
    · rw [if_pos (show (971 : Int) < 971 + 1 by decide), if_neg (lt_irrefl (971 : Int)), ← div_lt_iff₀ hpow, ← not_le,
        ← hcarry]
      split_ifs with hm
      · exact iff_of_false Bool.false_ne_true (not_not_intro hm)
      · exact iff_of_true rfl hm
    · rw [if_pos (show 971 < e + 1 by omega), if_pos he, ite_self]
      exact iff_of_false Bool.false_ne_true (le_of_lt_exponent he (hlower (by omega))).not_gt

/-- A finite double that a fraction is rounded to has the exponent and the significand for it, up to a carry. -/
theorem value_ofRatio {negative : Bool} (hn : n ≠ 0) (h : (ofRatio negative n d).isFinite) :
    (ofRatio negative n d).value = signFactor negative * (significandFor n d * 2 ^ exponentFor n d) ∧
      (significandFor n d % 2 = 0 → (ofRatio negative n d).significand % 2 = 0) := by
  rw [ofRatio_eq negative hn] at h ⊢
  by_cases hcarry : significandFor n d = 2 ^ 53
  · rw [if_pos hcarry] at h ⊢
    split_ifs at h ⊢
    · cases h
    refine ⟨?_, fun _ => by norm_num [significand]⟩
    rw [value, hcarry, zpow_add_one₀ two_ne_zero]
    push_cast
    ring
  · rw [if_neg hcarry] at h ⊢
    split_ifs at h ⊢
    · cases h
    exact ⟨rfl, id⟩

theorem isCanonical_ofRatio (negative : Bool) (n : Nat) (hd : d ≠ 0) : (ofRatio negative n d).IsCanonical := by
  rcases eq_or_ne n 0 with rfl | hn
  · rw [ofRatio, if_pos rfl]
    exact fun h => absurd h (by decide)
  · rw [ofRatio_eq negative hn]
    split_ifs
    · trivial
    · exact fun _ => le_rfl
    · trivial
    · intro he
      obtain ⟨hnear, -⟩ := rounds_significandFor n hd
      have hm : (2 : ℚ) ^ 52 < significandFor n d + 1 := by
        linarith [zpow_exponentFor_le hn hd he, (abs_le.mp hnear).1]
      exact Nat.lt_succ_iff.mp (by exact_mod_cast hm)

/-- **Fractions are rounded to the nearest double.** -/
theorem isNearest_ofRatio (negative : Bool) (n : Nat) (hd : d ≠ 0) (h : (n : ℚ) / d < 2 ^ 1024 - 2 ^ 970) :
    (ofRatio negative n d).IsNearest (signFactor negative * (n / d)) := by
  have hfinite : (ofRatio negative n d).isFinite := (isFinite_ofRatio_iff negative n hd).mpr h
  rcases eq_or_ne n 0 with rfl | hn
  · rw [ofRatio, if_pos rfl, Nat.cast_zero, zero_div, mul_zero]
    exact isNearest_zero negative (by rw [abs_zero]; positivity)
  · obtain ⟨hvalue, heven⟩ := value_ofRatio hn hfinite
    have hnearest : ∀ y : Double, y.isFinite → y.IsBinary64 →
        |(ofRatio negative n d).value - signFactor negative * (n / d)| ≤ |y.value - signFactor negative * (n / d)| ∧
          (|y.value - signFactor negative * (n / d)| =
              |(ofRatio negative n d).value - signFactor negative * (n / d)| →
            y.value ≠ (ofRatio negative n d).value → significandFor n d % 2 = 0) := by
      intro y hf hb
      have hflip : ∀ v : ℚ, |v - signFactor negative * (n / d)| = |signFactor negative * v - n / d| := by
        intro v
        rw [← one_mul |v - _|, ← abs_signFactor negative, ← abs_mul, mul_sub, ← mul_assoc, signFactor_mul_self, one_mul]
      obtain ⟨hle, htie⟩ := nearest_of_rounds (rounds_significandFor n hd) (zpow_exponentFor_le hn hd)
        (isGrid_signFactor_mul negative (isGrid_value hf hb))
      rw [hflip, hflip, hvalue, ← mul_assoc, signFactor_mul_self, one_mul]
      refine ⟨hle, fun heq hne => htie heq fun hv => hne ?_⟩
      rw [← hv, ← mul_assoc, signFactor_mul_self, one_mul]
    exact {
      isFinite := hfinite
      isBinary64 := isBinary64_ofRatio negative n hd
      isCanonical := isCanonical_ofRatio negative n hd
      nearest := fun y hf hb => (hnearest y hf hb).1
      even := fun y hf hb hne heq => heven ((hnearest y hf hb).2 heq hne) }

/-! ## Decimals -/

theorem abs_toRat (x : Decimal) : |x.toRat| = x.mantissa * 10 ^ x.exponent := by
  rw [Decimal.toRat, abs_mul, abs_signFactor, one_mul, abs_of_nonneg (by positivity)]

/-- A decimal with a large exponent is too large. -/
theorem finiteBound_le_abs_toRat {x : Decimal} (hm : x.mantissa ≠ 0) (he : 309 < x.exponent) :
    2 ^ 1024 - 2 ^ 970 ≤ |x.toRat| := by
  have hone : (1 : ℚ) ≤ x.mantissa := by exact_mod_cast Nat.one_le_iff_ne_zero.mpr hm
  have hten : (1 : ℚ) ≤ 10 := by norm_num
  rw [abs_toRat]
  calc (2 : ℚ) ^ 1024 - 2 ^ 970 ≤ 2 ^ 1024 := sub_le_self _ (pow_pos two_pos 970).le
    _ ≤ 10 ^ 310 := by exact_mod_cast (by decide +kernel : 2 ^ 1024 ≤ 10 ^ 310)
    _ = 10 ^ (310 : Int) := (zpow_natCast _ _).symm
    _ ≤ 10 ^ x.exponent := zpow_le_zpow_right₀ hten (by omega)
    _ ≤ x.mantissa * 10 ^ x.exponent := le_mul_of_one_le_left (by positivity) hone

/-- A decimal with few digits for its negative exponent is nearer to zero than to any other double. -/
theorem abs_toRat_le {x : Decimal} (h : (x.mantissa.log2 : Int) + 1 + 3 * x.exponent ≤ -1076) :
    |x.toRat| ≤ 2 ^ (-1075 : Int) := by
  have hm : (x.mantissa : ℚ) < 2 ^ (x.mantissa.log2 + 1) := by exact_mod_cast Nat.lt_log2_self
  have hten : (10 : ℚ) ^ x.exponent ≤ 8 ^ x.exponent := by
    obtain ⟨k, hk⟩ : ∃ k : Nat, x.exponent = -k := ⟨(-x.exponent).toNat, by omega⟩
    rw [hk, zpow_neg, zpow_neg, zpow_natCast, zpow_natCast]
    gcongr
    norm_num
  rw [abs_toRat]
  calc (x.mantissa : ℚ) * 10 ^ x.exponent ≤ 2 ^ (x.mantissa.log2 + 1) * 8 ^ x.exponent := by gcongr
    _ = 2 ^ ((x.mantissa.log2 : Int) + 1 + 3 * x.exponent) := by
      rw [zpow_add₀ two_ne_zero, zpow_mul, ← Nat.cast_succ, zpow_natCast]
      norm_num
    _ ≤ 2 ^ (-1075 : Int) := by
      gcongr
      · norm_num
      · omega

/-- The fraction of a decimal. -/
theorem ofDecimal_of_small {x : Decimal} (hm : x.mantissa ≠ 0) (hlarge : ¬309 < x.exponent)
    (hsmall : ¬(x.mantissa.log2 : Int) + 1 + 3 * x.exponent ≤ -1076) :
    ∃ n d, d ≠ 0 ∧ ofDecimal x = ofRatio x.negative n d ∧ x.toRat = signFactor x.negative * (n / d) := by
  rw [ofDecimal, if_neg hm, if_neg hlarge, if_neg hsmall]
  unfold Decimal.toRat
  generalize x.exponent = e
  split_ifs with hsign
  · refine ⟨_, _, one_ne_zero, rfl, ?_⟩
    obtain ⟨k, rfl⟩ := Int.eq_ofNat_of_zero_le hsign
    rw [Int.toNat_natCast, Nat.pow_eq, zpow_natCast]
    push_cast
    rw [div_one]
  · obtain ⟨k, rfl⟩ : ∃ k : Nat, e = -k := ⟨(-e).toNat, by omega⟩
    refine ⟨_, _, ?_, rfl, ?_⟩
    · rw [Nat.pow_eq]
      positivity
    · rw [neg_neg, Int.toNat_natCast, Nat.pow_eq, zpow_neg, zpow_natCast, ← div_eq_mul_inv]
      push_cast
      rfl

/-- A number near zero is not too large, and zero is the nearest double. -/
theorem zero_rounds (negative : Bool) (h : |r| ≤ 2 ^ (-1075 : Int)) :
    ((zero negative).isFinite ↔ |r| < 2 ^ 1024 - 2 ^ 970) ∧
      (|r| < 2 ^ 1024 - 2 ^ 970 → (zero negative).IsNearest r) :=
  ⟨iff_of_true rfl (h.trans_lt zpow_lt_finiteBound), fun _ => isNearest_zero negative h⟩

/-- **Decimals are rounded to the nearest double.** Only a decimal of at least `2 ^ 1024 - 2 ^ 970` is too large for
that, whatever its sign. -/
theorem ofDecimal_rounds (x : Decimal) :
    ((ofDecimal x).isFinite ↔ |x.toRat| < 2 ^ 1024 - 2 ^ 970) ∧
      (|x.toRat| < 2 ^ 1024 - 2 ^ 970 → (ofDecimal x).IsNearest x.toRat) := by
  by_cases hm : x.mantissa = 0
  · rw [ofDecimal, if_pos hm]
    refine zero_rounds _ ?_
    rw [abs_toRat, hm, Nat.cast_zero, zero_mul]
    positivity
  · by_cases hlarge : 309 < x.exponent
    · have hle : 2 ^ 1024 - 2 ^ 970 ≤ |x.toRat| := finiteBound_le_abs_toRat hm hlarge
      rw [ofDecimal, if_neg hm, if_pos hlarge]
      exact ⟨iff_of_false Bool.false_ne_true hle.not_gt, fun hlt => absurd hlt hle.not_gt⟩
    · by_cases hsmall : (x.mantissa.log2 : Int) + 1 + 3 * x.exponent ≤ -1076
      · rw [ofDecimal, if_neg hm, if_neg hlarge, if_pos hsmall]
        exact zero_rounds _ (abs_toRat_le hsmall)
      · obtain ⟨n, d, hd, heq, hrat⟩ := ofDecimal_of_small hm hlarge hsmall
        have habs : |x.toRat| = n / d := by
          rw [hrat, abs_mul, abs_signFactor, one_mul, abs_of_nonneg (by positivity)]
        rw [habs, heq, hrat]
        exact ⟨isFinite_ofRatio_iff x.negative n hd, isNearest_ofRatio x.negative n hd⟩

/-! ## The sign of the nearest double -/

theorem isPositive_iff_value {x : Double} (h : x.isFinite) : x.isPositive ↔ 0 < x.value := by
  cases x with
  | finite negative m e =>
    have hpow : (0 : ℚ) < 2 ^ e := by positivity
    cases negative with
    | false => simp [isPositive, value, signFactor, hpow, Nat.pos_iff_ne_zero]
    | true =>
      have hle : 0 ≤ (m : ℚ) * 2 ^ e := by positivity
      simp [isPositive, value, signFactor, hle]
  | nan | infinite => cases h

/-- The smallest positive double. -/
def least : Double := .finite false 1 (-1074)

theorem value_least : least.value = 2 ^ (-1074 : Int) := by simp [least, value, signFactor]

/-- The significand of the smallest positive double is odd. -/
theorem significand_of_value_eq_least {x : Double} (hf : x.isFinite) (hb : x.IsBinary64)
    (h : x.value = 2 ^ (-1074 : Int)) : x.significand % 2 = 1 := by
  have hpos : x.isPositive := (isPositive_iff_value hf).mpr (by rw [h]; positivity)
  cases x with
  | finite negative m e =>
    cases negative with
    | true => simp [isPositive] at hpos
    | false =>
      have hvalue : (m : ℚ) * 2 ^ e = 2 ^ (-1074 : Int) := by simpa [value, signFactor] using h
      rcases eq_or_lt_of_le hb.2.1 with rfl | he
      · have hm : (m : ℚ) = 1 := mul_eq_right₀ (by positivity) |>.mp hvalue
        have hm : m = 1 := by exact_mod_cast hm
        rw [significand, hm]
      · have hm0 : m ≠ 0 := by
          rintro rfl
          simp [isPositive] at hpos
        have hm : (1 : ℚ) ≤ m := by exact_mod_cast Nat.one_le_iff_ne_zero.mpr hm0
        have hlt : (2 : ℚ) ^ (-1074 : Int) < m * 2 ^ e := by
          calc (2 : ℚ) ^ (-1074 : Int) < 2 ^ e := zpow_lt_zpow_right₀ one_lt_two he
            _ ≤ m * 2 ^ e := le_mul_of_one_le_left (by positivity) hm
        exact absurd hvalue hlt.ne'
  | nan | infinite => cases hf

/-- **The nearest double is positive above half of the smallest one.** Half of the smallest one is as near to zero,
which is even. -/
theorem IsNearest.isPositive_iff {x : Double} (h : x.IsNearest r) : x.isPositive ↔ 2 ^ (-1075 : Int) < r := by
  have hhalf : (0 : ℚ) < 2 ^ (-1075 : Int) := by positivity
  rw [isPositive_iff_value h.isFinite]
  constructor
  · intro hpos
    by_contra hle
    rw [not_lt] at hle
    have hvalue : 2 ^ (-1074 : Int) ≤ x.value := by
      rw [← abs_of_pos hpos]
      exact (isGrid_value h.isFinite h.isBinary64).le_abs hpos.ne'
    have hnear : |x.value - r| ≤ |(zero false).value - r| := h.nearest _ rfl (isBinary64_zero false)
    have hzero : (zero false).value = 0 := by simp [zero, value]
    rw [zpow_least] at hvalue
    rw [hzero, zero_sub, abs_neg, abs_of_nonneg (by linarith)] at hnear
    have hr : 0 ≤ r := by
      by_contra hneg
      rw [abs_of_neg (not_le.mp hneg)] at hnear
      linarith
    rw [abs_of_nonneg hr] at hnear
    have hone := significand_of_value_eq_least h.isFinite h.isBinary64 (by rw [zpow_least]; linarith)
    have heven := h.even (zero false) rfl (isBinary64_zero false) (by rw [hzero]; exact hpos.ne)
      (by rw [hzero, zero_sub, abs_neg, abs_of_nonneg hr, abs_of_nonneg (by linarith)]; linarith)
    omega
  · intro hlt
    by_contra hle
    rw [not_lt] at hle
    have hnear : |x.value - r| ≤ |least.value - r| := h.nearest _ rfl ⟨by norm_num, le_rfl, by norm_num⟩
    have hclose : |least.value - r| < r := by
      rw [value_least, zpow_least]
      exact abs_lt.mpr ⟨by linarith, by linarith⟩
    rw [abs_of_neg (by linarith)] at hnear
    linarith

end IndexOptions.Double
