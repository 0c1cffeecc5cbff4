import IndexOptions.Options.Values
import IndexOptions.Proofs.Rounding

/-!
# The verdict on a number of seconds

What becomes of the text of a number of seconds is decided by the rational number that it denotes without the blanks
around it, however long it is and however large its exponent. A text that is no decimal numeral is no number, and
neither is one of an absolute value from `2 ^ 1024 - 2 ^ 970` on. Below that a number is not positive up to `2 ^ -1075`,
and all others are rounded to the nearest double (`OptionMap.refreshSeconds_decided`).
-/

namespace IndexOptions

open Decimal (Denotes)

namespace Numeral

variable {t : Text} {r : ℚ}

/-! ## Finite numbers -/

theorem finite?_of_not_denotes (h : ∀ r, ¬Denotes t.trim r) : finite? t = none := by
  have hparse : Decimal.parse? t.trim = none := by
    refine Option.eq_none_iff_forall_ne_some.mpr fun x hx => h x.toRat ?_
    exact Decimal.denotes_iff.mpr ⟨x, hx, rfl⟩
  rw [finite?, hparse]
  rfl

/-- A numeral is too large for a finite double, or is rounded to the nearest one. -/
theorem finite?_of_denotes (h : Denotes t.trim r) :
    (2 ^ 1024 - 2 ^ 970 ≤ |r| ∧ finite? t = none) ∨
      (|r| < 2 ^ 1024 - 2 ^ 970 ∧ ∃ x, finite? t = some x ∧ x.IsNearest r) := by
  obtain ⟨x, hx, rfl⟩ := Decimal.denotes_iff.mp h
  obtain ⟨hfinite, hnearest⟩ := Double.ofDecimal_rounds x
  rw [finite?, hx, Option.map_some]
  rcases lt_or_ge |x.toRat| (2 ^ 1024 - 2 ^ 970) with hlt | hge
  · exact .inr ⟨hlt, _, Option.filter_some_pos (hfinite.mpr hlt), hnearest hlt⟩
  · exact .inl ⟨hge, Option.filter_some_neg (by simpa using hfinite.not.mpr hge.not_gt)⟩

end Numeral

namespace OptionMap

variable {options : OptionMap} {raw : Text}

/-! ## The verdict -/

theorem refreshSeconds_of_finite?_eq_none (hraw : options.raw .refreshSeconds = some raw)
    (h : Numeral.finite? raw = none) : options.refreshSeconds = reject .refreshSeconds .notPositiveNumber := by
  simp only [refreshSeconds, hraw, h]

theorem refreshSeconds_of_finite?_eq_some {x : Double} (hraw : options.raw .refreshSeconds = some raw)
    (h : Numeral.finite? raw = some x) :
    options.refreshSeconds = if x.isPositive then .ok x else reject .refreshSeconds .notPositive := by
  simp only [refreshSeconds, hraw, h]

/-- **The verdict on a number of seconds is decided by the number that its text denotes.** -/
theorem refreshSeconds_decided (hraw : options.raw .refreshSeconds = some raw) :
    ((∀ r, ¬Denotes raw.trim r) → options.refreshSeconds = reject .refreshSeconds .notPositiveNumber) ∧
      ∀ r, Denotes raw.trim r →
        (options.refreshSeconds = reject .refreshSeconds .notPositiveNumber ↔ 2 ^ 1024 - 2 ^ 970 ≤ |r|) ∧
        (options.refreshSeconds = reject .refreshSeconds .notPositive ↔
          |r| < 2 ^ 1024 - 2 ^ 970 ∧ r ≤ 2 ^ (-1075 : Int)) ∧
        (|r| < 2 ^ 1024 - 2 ^ 970 → 2 ^ (-1075 : Int) < r →
          ∃ x, options.refreshSeconds = .ok x ∧ x.IsNearest r ∧ x.isFinite ∧ x.isPositive) := by
  refine ⟨fun hno => refreshSeconds_of_finite?_eq_none hraw (Numeral.finite?_of_not_denotes hno), fun r hr => ?_⟩
  rcases Numeral.finite?_of_denotes hr with ⟨hge, hnone⟩ | ⟨hlt, x, hsome, hnearest⟩
  · rw [refreshSeconds_of_finite?_eq_none hraw hnone]
    exact ⟨iff_of_true rfl hge, iff_of_false nofun fun h => absurd h.1 hge.not_gt, fun h => absurd h hge.not_gt⟩
  · rw [refreshSeconds_of_finite?_eq_some hraw hsome]
    by_cases hpositive : x.isPositive
    · have hr := hnearest.isPositive_iff.mp hpositive
      rw [if_pos hpositive]
      exact ⟨iff_of_false nofun hlt.not_ge, iff_of_false nofun fun h => absurd h.2 hr.not_ge,
        fun _ _ => ⟨x, rfl, hnearest, hnearest.isFinite, hpositive⟩⟩
    · have hr := hnearest.isPositive_iff.not.mp hpositive
      rw [if_neg hpositive]
      exact ⟨iff_of_false nofun hlt.not_ge, iff_of_true rfl ⟨hlt, not_lt.mp hr⟩, fun _ h => absurd h hr⟩

/-- Five seconds, with blanks around the numeral and no digit before its point. -/
theorem refreshSeconds_decided_five :
    OptionMap.raw [(OptionName.refreshSeconds.text, " .5e1\t")] .refreshSeconds = some " .5e1\t" ∧
      Denotes (Text.trim " .5e1\t") 5 ∧
      ∃ x, OptionMap.refreshSeconds [(OptionName.refreshSeconds.text, " .5e1\t")] = .ok x ∧ x.IsNearest 5 := by
  have hraw : OptionMap.raw [(OptionName.refreshSeconds.text, " .5e1\t")] .refreshSeconds = some " .5e1\t" := by
    decide +kernel
  have hdenotes : Denotes (Text.trim " .5e1\t") 5 :=
    Decimal.denotes_iff.mpr ⟨⟨false, 5, 0⟩, by decide +kernel, by norm_num [Decimal.toRat, Decimal.signFactor]⟩
  have hlt : |(5 : ℚ)| < 2 ^ 1024 - 2 ^ 970 := by
    rw [Double.finiteBound_eq]
    exact Double.lt_of_exponent_lt (e := 0) (by norm_num) (by norm_num)
  have hgt : (2 : ℚ) ^ (-1075 : Int) < 5 :=
    (zpow_lt_one_of_neg₀ one_lt_two (by norm_num)).trans (by norm_num)
  obtain ⟨x, hx, hnearest, -⟩ := ((refreshSeconds_decided hraw).2 5 hdenotes).2.2 hlt hgt
  exact ⟨hraw, hdenotes, x, hx, hnearest⟩

end OptionMap

end IndexOptions
