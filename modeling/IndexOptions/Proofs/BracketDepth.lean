import IndexOptions.Proofs.ColumnTypes
import Mathlib.Data.List.Infix

/-!
# Brackets and the commas outside of them

`splitFrom` counts brackets and cuts at the commas that it meets at depth zero. Here the count is a number of its own
(`depthFrom`), for all texts, also for those with closing brackets that close nothing:

- `splitFrom_comma`: a comma at depth zero cuts a text into the pieces of its two sides;
- `splitFrom_of_uncut`: a text without such a comma is one piece;
- `getLast?_splitFrom_eq_some_iff`: so the last piece is what follows the last of these commas.

All of this looks at brackets and commas only (`depthFrom_filter_isMark`, `uncut_filter_isMark_iff`), and these are the
same in the normal form of a text (`filter_isMark_normal`).
-/

namespace IndexOptions.ColumnType

variable {depth : Int} {c : CodePoint} {t u r : Text}

/-! ## Depth -/

/-- The depth behind a text that stands at a depth. -/
def depthFrom (depth : Int) (t : Text) : Int := t.foldl depthAfter depth

/-- The brackets of a text match: a closing one closes one that is open, and in the end none is open. -/
structure Balanced (t : Text) : Prop where
  nonneg : ∀ p, p <+: t → 0 ≤ depthFrom 0 p
  settled : depthFrom 0 t = 0

instance (t : Text) : Decidable (Balanced t) :=
  decidable_of_iff ((∀ p ∈ t.inits, 0 ≤ depthFrom 0 p) ∧ depthFrom 0 t = 0)
    ⟨fun h => ⟨fun p hp => h.1 p ((List.mem_inits p t).mpr hp), h.2⟩,
      fun h => ⟨fun p hp => h.nonneg p ((List.mem_inits p t).mp hp), h.settled⟩⟩

theorem depthFrom_append (depth : Int) (t u : Text) : depthFrom depth (t ++ u) = depthFrom (depthFrom depth t) u :=
  List.foldl_append

/-- Only brackets change the depth. -/
theorem depthAfter_of_isMark_eq_false (h : isMark c = false) (depth : Int) : depthAfter depth c = depth := by
  simp only [isMark, Bool.or_eq_false_iff, decide_eq_false_iff_not] at h
  rw [depthAfter, if_neg h.1.1, if_neg h.1.2]

/-! ## Commas at depth zero -/

/-- No comma of a text that stands at a depth is at depth zero. -/
def Uncut (depth : Int) (t : Text) : Prop := ∀ p r, t = p ++ CodePoint.ofChar ',' :: r → depthFrom depth p ≠ 0

theorem uncut_nil : Uncut depth [] := by
  intro p r h
  simp at h

/-- The commas of a text are those of its parts, at their depths. -/
theorem uncut_cons_iff :
    Uncut depth (c :: t) ↔ (c = CodePoint.ofChar ',' → depth ≠ 0) ∧ Uncut (depthAfter depth c) t := by
  constructor
  · intro h
    refine ⟨?_, fun p r ht => ?_⟩
    · rintro rfl
      exact h [] t rfl
    · exact h (c :: p) r (by rw [ht]; rfl)
  · rintro ⟨hc, ht⟩ p r h
    cases p with
    | nil =>
      obtain ⟨rfl, -⟩ := List.cons.inj h
      exact hc rfl
    | cons d p =>
      obtain ⟨rfl, htail⟩ := List.cons.inj h
      exact ht p r htail

instance decidableUncut : (depth : Int) → (t : Text) → Decidable (Uncut depth t)
  | _, [] => .isTrue uncut_nil
  | depth, c :: t =>
    have := decidableUncut (depthAfter depth c) t
    decidable_of_iff _ uncut_cons_iff.symm

/-! ## Pieces -/

/-- A text without commas at depth zero is not cut. -/
theorem splitFrom_of_uncut (h : Uncut depth t) : splitFrom depth t = [t] := by
  induction t generalizing depth with
  | nil => rfl
  | cons c t ih =>
    obtain ⟨hc, ht⟩ := uncut_cons_iff.mp h
    have hcut : ¬(c = CodePoint.ofChar ',' && depth = 0) = true := by simpa using hc
    rw [splitFrom, if_neg hcut, ih ht]
    rfl

theorem prepend_append (c : CodePoint) {ps : List Text} (h : ps ≠ []) (qs : List Text) :
    prepend c (ps ++ qs) = prepend c ps ++ qs := by
  cases ps with
  | nil => exact absurd rfl h
  | cons p ps => rfl

/-- A comma at depth zero parts the pieces before it from those behind it. -/
theorem splitFrom_comma (h : depthFrom depth t = 0) (r : Text) :
    splitFrom depth (t ++ CodePoint.ofChar ',' :: r) = splitFrom depth t ++ splitFrom 0 r := by
  induction t generalizing depth with
  | nil =>
    cases (h : depth = 0)
    rfl
  | cons c t ih =>
    rw [List.cons_append, splitFrom, splitFrom]
    split
    · next hcut =>
      have hd : depthAfter depth c = depth := by
        obtain ⟨rfl, -⟩ : c = CodePoint.ofChar ',' ∧ depth = 0 := by simpa using hcut
        rfl
      have hrest : depthFrom depth t = 0 := hd ▸ h
      rw [ih hrest, List.cons_append]
    · rw [ih h, prepend_append c (splitFrom_ne_nil _ _)]

/-- A text has no comma at depth zero, or a last one. -/
theorem uncut_or_exists_comma (depth : Int) (t : Text) :
    Uncut depth t ∨ ∃ p u, t = p ++ CodePoint.ofChar ',' :: u ∧ depthFrom depth p = 0 ∧ Uncut 0 u := by
  induction t generalizing depth with
  | nil => exact Or.inl uncut_nil
  | cons c t ih =>
    rcases ih (depthAfter depth c) with ht | ⟨p, u, rfl, hp, hu⟩
    · by_cases hc : c = CodePoint.ofChar ',' ∧ depth = 0
      · obtain ⟨rfl, rfl⟩ := hc
        exact Or.inr ⟨[], t, rfl, rfl, ht⟩
      · exact Or.inl (uncut_cons_iff.mpr ⟨fun h hd => hc ⟨h, hd⟩, ht⟩)
    · exact Or.inr ⟨c :: p, u, rfl, hp, hu⟩

/-- The last piece is the whole text, or what follows a comma at depth zero; it has no such comma itself. -/
theorem getLast?_splitFrom_eq_some_iff :
    (splitFrom depth t).getLast? = some u ↔
      (t = u ∧ Uncut depth u) ∨
        ∃ p, t = p ++ CodePoint.ofChar ',' :: u ∧ depthFrom depth p = 0 ∧ Uncut 0 u := by
  have hwhole : ∀ {t : Text}, Uncut depth t → (splitFrom depth t).getLast? = some t := by
    intro t ht
    rw [splitFrom_of_uncut ht]
    rfl
  have hafter : ∀ {p u : Text}, depthFrom depth p = 0 → Uncut 0 u →
      (splitFrom depth (p ++ CodePoint.ofChar ',' :: u)).getLast? = some u := by
    intro p u hp hu
    rw [splitFrom_comma hp, splitFrom_of_uncut hu, List.getLast?_concat]
  constructor
  · intro h
    rcases uncut_or_exists_comma depth t with ht | ⟨p, v, rfl, hp, hv⟩
    · cases Option.some.inj ((hwhole ht).symm.trans h)
      exact Or.inl ⟨rfl, ht⟩
    · cases Option.some.inj ((hafter hp hv).symm.trans h)
      exact Or.inr ⟨p, rfl, hp, hv⟩
  · rintro (⟨rfl, ht⟩ | ⟨p, rfl, hp, hu⟩)
    · exact hwhole ht
    · exact hafter hp hu

/-! ## Marks -/

/-- The depth behind a text is counted on its marks alone. -/
theorem depthFrom_filter_isMark (depth : Int) (t : Text) : depthFrom depth (t.filter isMark) = depthFrom depth t := by
  induction t generalizing depth with
  | nil => rfl
  | cons c t ih =>
    cases hc : isMark c with
    | true =>
      rw [List.filter_cons_of_pos hc]
      exact ih _
    | false =>
      rw [List.filter_cons_of_neg (by simp [hc]), ih]
      exact congrArg (depthFrom · t) (depthAfter_of_isMark_eq_false hc depth).symm

/-- Whether a comma is at depth zero is seen on the marks alone. -/
theorem uncut_filter_isMark_iff : Uncut depth (t.filter isMark) ↔ Uncut depth t := by
  induction t generalizing depth with
  | nil => rfl
  | cons c t ih =>
    cases hc : isMark c with
    | true => rw [List.filter_cons_of_pos hc, uncut_cons_iff, uncut_cons_iff, ih]
    | false =>
      have hcomma : c ≠ CodePoint.ofChar ',' := by
        rintro rfl
        exact absurd hc (by decide)
      rw [List.filter_cons_of_neg (by simp [hc]), ih, uncut_cons_iff, depthAfter_of_isMark_eq_false hc]
      simp [hcomma]

/-- Lowering a code point keeps a mark and makes none. -/
theorem filter_isMark_lower_codePoint (c : CodePoint) : c.lower.filter isMark = [c].filter isMark := by
  cases hc : isMark c with
  | true => rw [(breaksWord_mark hc).2]
  | false =>
    have hlower : ∀ d ∈ c.lower, ¬isMark d := by
      intro d hd hmark
      have hsmall : d.val < 97 := by
        simp only [isMark, Bool.or_eq_true, decide_eq_true_eq] at hmark
        rcases hmark with (rfl | rfl) | rfl <;> decide
      rw [CodePoint.eq_of_mem_lower hd hsmall, hc] at hmark
      cases hmark
    rw [List.filter_eq_nil_iff.mpr hlower, List.filter_cons_of_neg (by simp [hc]), List.filter_nil]

/-- The marks of a text are those of its lower-case form, inside and outside of words. -/
theorem filter_isMark_lowerFrom (inWord : Bool) (t : Text) :
    (Text.lowerFrom inWord t).filter isMark = t.filter isMark := by
  induction t generalizing inWord with
  | nil => rfl
  | cons c t ih =>
    have hcons : (c :: t).filter isMark = [c].filter isMark ++ t.filter isMark := by
      rw [← List.filter_append]
      rfl
    have hfinal : [CodePoint.finalSigma].filter isMark = [CodePoint.capitalSigma].filter isMark := by decide
    rw [hcons, Text.lowerFrom]
    split
    · next hsigma =>
      rw [List.filter_append, ih, hsigma]
      split
      · rw [hfinal]
      · rw [filter_isMark_lower_codePoint]
    · rw [List.filter_append, ih, filter_isMark_lower_codePoint]

/-- The normal form has the brackets and commas of the text. -/
theorem filter_isMark_normal (t : Text) : (normal t).filter isMark = t.filter isMark := by
  rw [normal, Text.lower, filter_isMark_lowerFrom, Text.withoutBlanks, List.filter_filter]
  refine List.filter_congr fun c _ => ?_
  cases hc : isMark c with
  | true => simp [isBlank_mark hc]
  | false => rfl

theorem depthFrom_normal (depth : Int) (t : Text) : depthFrom depth (normal t) = depthFrom depth t := by
  rw [← depthFrom_filter_isMark, filter_isMark_normal, depthFrom_filter_isMark]

theorem uncut_normal_iff : Uncut depth (normal t) ↔ Uncut depth t := by
  rw [← uncut_filter_isMark_iff, filter_isMark_normal, uncut_filter_isMark_iff]

end IndexOptions.ColumnType
