import IndexOptions.Logging.Loggers
import Mathlib.Data.List.Basic

/-!
# Names below names

The cuts of a logger's name are read off from the end: the name is cut before its last dot, and the search goes on
before the code point that is last in what is left. So of two dots in a row only the second is a place for a cut. From
the front this is a matter of parity: a name is below another one if it is that one, a dot, and a rest that begins with
an even number of dots (`IsBelow`, `mem_above_iff`). In a name without two dots in a row that is every dot
(`isBelow_iff_of_single_dots`).
-/

namespace IndexOptions.Logger

variable {c d : CodePoint} {logger rest t top : Text}

/-! ## Dots at the beginning -/

/-- How many dots a text begins with. -/
def leadingDots (t : Text) : Nat := (t.takeWhile fun c => c = CodePoint.ofChar '.').length

theorem leadingDots_concat (hc : c ≠ CodePoint.ofChar '.') (t : Text) : leadingDots (t ++ [c]) = leadingDots t := by
  rw [leadingDots, leadingDots, List.takeWhile_append]
  split
  · next hall => simp [hc, hall]
  · rfl

/-- A code point and a dot at the end do not change whether the number of dots at the beginning is even: either they do
not belong to them, or both do. -/
theorem leadingDots_concat_dot (c : CodePoint) (t : Text) :
    leadingDots (t ++ [c, CodePoint.ofChar '.']) % 2 = leadingDots t % 2 := by
  rw [leadingDots, leadingDots, List.takeWhile_append]
  split
  · next hall =>
    by_cases hc : c = CodePoint.ofChar '.'
    · simp [hc, hall]
    · simp [hc, hall]
  · rfl

/-! ## Names below a name -/

/-- A name is below another one: it is the other one, a dot, and a rest that begins with an even number of dots. -/
def IsBelow (top logger : Text) : Prop :=
  ∃ rest, logger = top ++ CodePoint.ofChar '.' :: rest ∧ leadingDots rest % 2 = 0

theorem not_isBelow_nil : ¬IsBelow top [] := by
  rintro ⟨rest, h, -⟩
  simp at h

/-- A code point that is no dot does not matter at the end of a name. -/
theorem isBelow_concat_iff (hc : c ≠ CodePoint.ofChar '.') : IsBelow top (t ++ [c]) ↔ IsBelow top t := by
  constructor
  · rintro ⟨rest, h, heven⟩
    rcases List.eq_nil_or_concat' rest with rfl | ⟨rest, e, rfl⟩
    · obtain ⟨-, hlast⟩ := List.append_inj' h rfl
      exact absurd (List.singleton_inj.mp hlast) hc
    · rw [← List.cons_append, ← List.append_assoc] at h
      obtain ⟨rfl, hlast⟩ := List.append_inj' h rfl
      cases hlast
      exact ⟨rest, rfl, leadingDots_concat hc rest ▸ heven⟩
  · rintro ⟨rest, rfl, heven⟩
    exact ⟨rest ++ [c], by simp, (leadingDots_concat hc rest).symm ▸ heven⟩

/-- A name that ends in a dot is below what is before the dot, and else below what is above the name without its last
two code points. -/
theorem isBelow_concat_dot_iff :
    IsBelow top (t ++ [c, CodePoint.ofChar '.']) ↔ top = t ++ [c] ∨ IsBelow top t := by
  constructor
  · rintro ⟨rest, h, heven⟩
    rcases List.eq_nil_or_concat' rest with rfl | ⟨rest, e, rfl⟩
    · have hcut : (t ++ [c]) ++ [CodePoint.ofChar '.'] = top ++ [CodePoint.ofChar '.'] := by simpa using h
      exact Or.inl (List.append_inj' hcut rfl).1.symm
    · rcases List.eq_nil_or_concat' rest with rfl | ⟨rest, d, rfl⟩
      · -- a single dot behind the cut is an odd number of them
        have hlast : e = CodePoint.ofChar '.' := by
          have := congrArg List.getLast? h
          simpa [eq_comm] using this
        rw [hlast] at heven
        exact absurd heven (by decide)
      · have hcut : t ++ [c, CodePoint.ofChar '.'] = (top ++ CodePoint.ofChar '.' :: rest) ++ [d, e] := by simpa using h
        obtain ⟨rfl, hends⟩ := List.append_inj' hcut rfl
        cases hends
        have hsame := leadingDots_concat_dot c rest
        refine Or.inr ⟨rest, rfl, ?_⟩
        rw [← hsame, ← heven]
        simp
  · rintro (rfl | ⟨rest, rfl, heven⟩)
    · exact ⟨[], by simp, rfl⟩
    · exact ⟨rest ++ [c, CodePoint.ofChar '.'], by simp, (leadingDots_concat_dot c rest).trans heven⟩

/-- A name without two dots in a row is below what is before any of the dots. -/
theorem isBelow_iff_of_single_dots (h : ¬[CodePoint.ofChar '.', CodePoint.ofChar '.'] <:+: logger) :
    IsBelow top logger ↔ ∃ rest, logger = top ++ CodePoint.ofChar '.' :: rest := by
  constructor
  · rintro ⟨rest, hcut, -⟩
    exact ⟨rest, hcut⟩
  · rintro ⟨rest, rfl⟩
    refine ⟨rest, rfl, ?_⟩
    cases rest with
    | nil => rfl
    | cons c rest =>
      have hc : c ≠ CodePoint.ofChar '.' := by
        rintro rfl
        exact h ⟨top, rest, by simp⟩
      simp [leadingDots, hc]

/-- The cuts of a name are the names that it is below. -/
theorem mem_above_iff (reversed : Text) : top ∈ above reversed ↔ top ≠ [] ∧ IsBelow top reversed.reverse := by
  induction reversed using above.induct with
  | case1 => simp [above, not_isBelow_nil]
  | case2 c =>
    constructor
    · intro h
      cases h
    · rintro ⟨hne, rest, h, -⟩
      have hpos : 0 < top.length := List.length_pos_iff.mpr hne
      have hlength := congrArg List.length h
      simp only [List.length_reverse, List.length_append, List.length_cons, List.length_nil] at hlength
      omega
  | case3 d r ih =>
    have hends : (CodePoint.ofChar '.' :: d :: r).reverse = r.reverse ++ [d, CodePoint.ofChar '.'] := by simp
    rw [above, if_pos rfl, List.mem_cons, ih, hends, isBelow_concat_dot_iff, List.reverse_cons]
    constructor
    · rintro (rfl | ⟨hne, hbelow⟩)
      · exact ⟨by simp, Or.inl rfl⟩
      · exact ⟨hne, Or.inr hbelow⟩
    · rintro ⟨hne, rfl | hbelow⟩
      · exact Or.inl rfl
      · exact Or.inr ⟨hne, hbelow⟩
  | case4 c d r hc ih =>
    rw [above, if_neg hc, ih, List.reverse_cons (a := c), isBelow_concat_iff hc]

/-- A cut is followed by a dot in the name. -/
theorem exists_rest_of_mem_above (h : top ∈ above logger.reverse) :
    ∃ rest, logger = top ++ CodePoint.ofChar '.' :: rest := by
  obtain ⟨-, rest, hrest, -⟩ := (mem_above_iff _).mp h
  exact ⟨rest, by simpa using hrest⟩

theorem prefix_of_mem_above (h : top ∈ above logger.reverse) : top <+: logger := by
  obtain ⟨rest, rfl⟩ := exists_rest_of_mem_above h
  exact List.prefix_append _ _

/-- In a name without two dots in a row, what is before a dot is a cut. -/
theorem mem_above_of_single_dots (h : ¬[CodePoint.ofChar '.', CodePoint.ofChar '.'] <:+: logger) (hne : top ≠ [])
    (hrest : logger = top ++ CodePoint.ofChar '.' :: rest) : top ∈ above logger.reverse := by
  rw [mem_above_iff, List.reverse_reverse, isBelow_iff_of_single_dots h]
  exact ⟨hne, rest, hrest⟩

/-- The cuts of a name come from the longest to the shortest, each beginning with those after it. -/
theorem pairwise_above (reversed : Text) : (above reversed).Pairwise fun near far => far <+: near := by
  induction reversed using above.induct with
  | case1 | case2 => exact .nil
  | case3 d r ih =>
    rw [above, if_pos rfl]
    refine .cons (fun far hfar => ?_) ih
    rw [List.reverse_cons]
    rw [← List.reverse_reverse r] at hfar
    exact (prefix_of_mem_above hfar).trans (List.prefix_append _ _)
  | case4 c d r hc ih =>
    rw [above, if_neg hc]
    exact ih

end IndexOptions.Logger
