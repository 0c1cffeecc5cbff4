import IndexOptions.Text.Basic
import Mathlib.Data.List.DropRight

/-!
# Trimmed texts

`trim` drops blanks from the two ends one after the other. Here its result is told without the order of the two: it is a
text that neither begins nor ends with a blank (`IsTrimmed`) and that has nothing but blanks around it (`IsPadded`).
There is no other one (`eq_trim_iff`), also for a text of blanks only.

A code point that is kept splits the work: what is before it loses blanks at the beginning only, and what is behind it
at the end only (`dropWhile_append_kept`, `dropEndWhile_append_kept`).
-/

namespace IndexOptions.Text

variable {p : CodePoint → Bool} {c : CodePoint} {body t u : Text}

/-! ## Classes of code points -/

theorem eq_false_of_mem_head?_dropWhile (h : c ∈ (t.dropWhile p).head?) : p c = false := by
  have hhead := List.head?_dropWhile_not p t
  rwa [Option.mem_def.mp h] at hhead

theorem dropWhile_eq_self (h : ∀ c ∈ t.head?, p c = false) : t.dropWhile p = t := by
  cases t with
  | nil => rfl
  | cons c t => rw [List.dropWhile_cons_of_neg (by simp [h c rfl])]

theorem dropEndWhile_eq_self (h : ∀ c ∈ t.getLast?, p c = false) : dropEndWhile p t = t := by
  rw [← List.head?_reverse] at h
  rw [dropEndWhile, dropWhile_eq_self h, List.reverse_reverse]

theorem dropEndWhile_append (h : ∀ c ∈ u, p c) : dropEndWhile p (t ++ u) = dropEndWhile p t := by
  rw [dropEndWhile, List.reverse_append, List.dropWhile_append_of_pos fun c hc => h c (List.mem_reverse.mp hc)]
  rfl

/-- Before a code point that is kept, only the beginning is dropped. -/
theorem dropWhile_append_kept (hc : p c = false) (t r : Text) :
    (t ++ c :: r).dropWhile p = t.dropWhile p ++ c :: r := by
  rw [List.dropWhile_append]
  split
  · next hall => rw [List.isEmpty_iff.mp hall, List.dropWhile_cons_of_neg (by simp [hc]), List.nil_append]
  · rfl

/-- Behind a code point that is kept, only the end is dropped. -/
theorem dropEndWhile_append_kept (hc : p c = false) (t r : Text) :
    dropEndWhile p (t ++ c :: r) = t ++ c :: dropEndWhile p r := by
  have hreverse : (t ++ c :: r).reverse = r.reverse ++ c :: t.reverse := by simp
  rw [dropEndWhile, hreverse, dropWhile_append_kept hc]
  simp [dropEndWhile]

/-! ## Blanks at the ends -/

/-- A text neither begins nor ends with a blank. -/
structure IsTrimmed (t : Text) : Prop where
  head : ∀ c ∈ t.head?, c.isBlank = false
  last : ∀ c ∈ t.getLast?, c.isBlank = false

/-- A text has nothing but blanks around another one. -/
def IsPadded (body t : Text) : Prop :=
  ∃ before behind, t = before ++ body ++ behind ∧ ∀ c ∈ before ++ behind, c.isBlank

theorem isTrimmed_trim (t : Text) : t.trim.IsTrimmed where
  head := by
    intro c hc
    have hstart : t.trim <+: t.dropWhile CodePoint.isBlank := List.rdropWhile_prefix _ _
    obtain ⟨r, hr⟩ := List.head?_eq_some_iff.mp hc
    obtain ⟨s, hs⟩ := hstart
    refine eq_false_of_mem_head?_dropWhile (t := t) ?_
    rw [← hs, hr]
    rfl
  last := by
    intro c hc
    rw [trim, trimWhile, dropEndWhile, List.getLast?_reverse] at hc
    exact eq_false_of_mem_head?_dropWhile hc

theorem isPadded_trim (t : Text) : IsPadded t.trim t := by
  refine ⟨t.takeWhile CodePoint.isBlank, (t.dropWhile CodePoint.isBlank).rtakeWhile CodePoint.isBlank, ?_, ?_⟩
  · calc t
      _ = t.takeWhile CodePoint.isBlank ++ t.dropWhile CodePoint.isBlank := List.takeWhile_append_dropWhile.symm
      _ = t.takeWhile CodePoint.isBlank ++ (t.trim ++ (t.dropWhile CodePoint.isBlank).rtakeWhile CodePoint.isBlank) :=
        congrArg _ (List.rdropWhile_append_rtakeWhile ..).symm
      _ = _ := (List.append_assoc _ _ _).symm
  · intro c hc
    rcases List.mem_append.mp hc with hc | hc
    · exact List.mem_takeWhile_imp hc
    · exact List.mem_rtakeWhile_imp hc

theorem trim_of_isTrimmed (h : t.IsTrimmed) : t.trim = t := by
  rw [trim, trimWhile, dropWhile_eq_self h.head, dropEndWhile_eq_self h.last]

/-- Blanks around a text do not matter when it is trimmed. -/
theorem trim_of_isPadded (h : IsPadded body t) : t.trim = body.trim := by
  obtain ⟨before, behind, rfl, hblank⟩ := h
  obtain ⟨hbefore, hbehind⟩ := List.forall_mem_append.mp hblank
  rw [trim, trim, trimWhile, trimWhile, List.append_assoc, List.dropWhile_append_of_pos hbefore, List.dropWhile_append]
  split
  · next hall =>
    -- There is nothing but blanks.
    rw [List.isEmpty_iff.mp hall, List.dropWhile_eq_nil_iff.mpr hbehind]
  · exact dropEndWhile_append hbehind

/-- The trimmed text is the only one without blanks at its ends and with nothing but blanks around it. -/
theorem eq_trim_iff : body = t.trim ↔ body.IsTrimmed ∧ IsPadded body t := by
  constructor
  · rintro rfl
    exact ⟨isTrimmed_trim t, isPadded_trim t⟩
  · rintro ⟨htrimmed, hpadded⟩
    rw [trim_of_isPadded hpadded, trim_of_isTrimmed htrimmed]

/-- A text that is trimmed has no blanks to trim. -/
theorem trim_trim (t : Text) : t.trim.trim = t.trim := trim_of_isTrimmed (isTrimmed_trim t)

end IndexOptions.Text
