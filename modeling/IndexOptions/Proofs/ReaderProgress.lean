import IndexOptions.Document.Reader
import Mathlib.Data.List.Infix
import Mathlib.Tactic

/-!
# What the reader takes off a text

A reader hands on a suffix of its text, so that the fuel of its loops, which is the length of the text, does not run
out.

- `Shorter r t`: `r` is left of `t` after at least one code point;
- `Consumed t x`: whatever the outcome `x` reads of `t`, less of the text is left;
- `consumed_value`: so for values at any depth, by induction on the depth, with one lemma for each reader below;
- `OnlyFaults x`: an outcome that meets no limit. Names and quoted texts are of this kind.
-/

namespace IndexOptions.Document

variable {α β : Type} {t r s u : Text}

/-! ## Less text -/

/-- What is left of a text after at least one code point. -/
def Shorter (r t : Text) : Prop := ∃ c u, t = c :: u ∧ r <:+ u

theorem shorter_cons (c : CodePoint) (h : r <:+ t) : Shorter r (c :: t) := ⟨c, t, rfl, h⟩

/-- What is left is the end of the text. -/
theorem Shorter.suffix (h : Shorter r t) : r <:+ t := by
  obtain ⟨c, u, rfl, hu⟩ := h
  exact hu.trans (List.suffix_cons c u)

/-- Less of a text is a shorter text; the fuel of a loop falls by this. -/
theorem Shorter.length_lt (h : Shorter r t) : r.length < t.length := by
  obtain ⟨c, u, rfl, hu⟩ := h
  exact Nat.lt_succ_of_le hu.length_le

/-- Less of what is left. -/
theorem Shorter.of_suffix (h : Shorter s t) (hr : r <:+ s) : Shorter r t := by
  obtain ⟨c, u, rfl, hu⟩ := h
  exact ⟨c, u, rfl, hr.trans hu⟩

/-- Less of a part. -/
theorem Shorter.suffix_right (h : Shorter r s) (hs : s <:+ t) : Shorter r t := by
  obtain ⟨c, u, rfl, hu⟩ := h
  obtain ⟨v, rfl⟩ := hs
  cases v with
  | nil => exact ⟨c, u, rfl, hu⟩
  | cons b v => exact ⟨b, v ++ c :: u, rfl, hu.trans ((List.suffix_cons c u).trans (List.suffix_append v _))⟩

theorem skip_suffix (t : Text) : skip t <:+ t := List.dropWhile_suffix _

/-- What follows the blanks and a code point after them. -/
theorem shorter_of_skip {c : CodePoint} (h : skip r = c :: s) : Shorter s r := by
  have hsuffix : c :: s <:+ r := h ▸ skip_suffix r
  exact (shorter_cons c List.suffix_rfl).suffix_right hsuffix

/-! ## Outcomes of readers -/

/-- The reader stopped at a limit, and not at a fault of the text. -/
def Stop.IsLimit : Stop → Prop
  | .fault _ _ => False
  | .tooDeep _ => True
  | .tooManyDigits _ => True

/-- If something was read, less of the text is left. -/
def Consumed (t : Text) (x : Except Stop (α × Text)) : Prop := ∀ a r, x = .ok (a, r) → Shorter r t

/-- If nothing was read, the text is at fault. -/
def OnlyFaults (x : Except Stop α) : Prop := ∀ e, x = .error e → ¬e.IsLimit

theorem consumed_error (t : Text) (e : Stop) : Consumed t (.error e : Except Stop (α × Text)) := by
  intro a r h
  cases h

theorem consumed_ok (h : Shorter r t) (a : α) : Consumed t (.ok (a, r)) := by
  intro b s hb
  cases hb
  exact h

/-- In a sequence it is the last part that has to leave less. -/
theorem consumed_bind {x : Except Stop (α × Text)} {f : α × Text → Except Stop (β × Text)}
    (h : ∀ a r, x = .ok (a, r) → Consumed t (f (a, r))) : Consumed t (x >>= f) := by
  cases x with
  | error e => exact consumed_error t e
  | ok p => exact h p.1 p.2 rfl

theorem onlyFaults_fault (fault : Fault) (t : Text) : OnlyFaults (.error (.fault fault t) : Except Stop α) := by
  intro e h
  cases h
  exact id

theorem onlyFaults_ok (a : α) : OnlyFaults (.ok a : Except Stop α) := by
  intro e h
  cases h

/-- A sequence meets no limit if none of its parts does. -/
theorem onlyFaults_bind {x : Except Stop α} {f : α → Except Stop β} (hx : OnlyFaults x) (hf : ∀ a, OnlyFaults (f a)) :
    OnlyFaults (x >>= f) := by
  cases x with
  | error e =>
    intro e' h
    cases h
    exact hx e rfl
  | ok a => exact hf a

/-! ## Quoted texts and names -/

/-- A quoted text takes its closing quote at least, by induction on the text along the cases of the reader. -/
theorem consumed_quotedFrom (start t : Text) : Consumed t (quotedFrom start t) := by
  fun_induction quotedFrom start t with
  | case1 | case3 | case5 | case6 | case8 | case9 => exact consumed_error _ _
  | case2 r => exact consumed_ok (shorter_cons _ List.suffix_rfl) _
  | case4 h₁ h₂ h₃ h₄ next r _ _ _ ih =>
    refine consumed_bind fun ws rest hws => consumed_ok ?_ _
    exact (ih ws rest hws).suffix_right ⟨_ :: _ :: [h₁, h₂, h₃, h₄], rfl⟩
  | case7 c r _ _ _ _ ih =>
    refine consumed_bind fun ws rest hws => consumed_ok ?_ _
    exact (ih ws rest hws).suffix_right ⟨[_, c], rfl⟩
  | case10 c r _ _ _ ih =>
    refine consumed_bind fun ws rest hws => consumed_ok ?_ _
    exact (ih ws rest hws).suffix_right (List.suffix_cons c r)

/-- Nothing is too long or too deep inside of a quoted text. -/
theorem onlyFaults_quotedFrom (start t : Text) : OnlyFaults (quotedFrom start t) := by
  fun_induction quotedFrom start t with
  | case1 | case3 | case5 | case6 | case8 | case9 => exact onlyFaults_fault _ _
  | case2 => exact onlyFaults_ok _
  | case4 _ _ _ _ _ _ _ _ _ ih | case7 _ _ _ _ _ _ ih | case10 _ _ _ _ _ ih =>
    exact onlyFaults_bind ih fun _ => onlyFaults_ok _

theorem consumed_quotedText (start t : Text) : Consumed t (quotedText start t) :=
  consumed_bind fun ws rest hws => consumed_ok (consumed_quotedFrom start t ws rest hws) _

theorem onlyFaults_quotedText (start t : Text) : OnlyFaults (quotedText start t) :=
  onlyFaults_bind (onlyFaults_quotedFrom start t) fun _ => onlyFaults_ok _

/-- The name of a member takes its quotes, the colon and the blanks around it. -/
theorem consumed_memberName (t : Text) : Consumed t (memberName t) := by
  unfold memberName
  split
  · exact consumed_error _ _
  · next c r =>
    split
    · refine consumed_bind fun name rest hname => ?_
      have hrest : Shorter rest (c :: r) :=
        (consumed_quotedText _ _ name rest hname).suffix_right (List.suffix_cons c r)
      dsimp only
      split
      · exact consumed_error _ _
      · next d s hskip =>
        split
        · exact consumed_ok (hrest.of_suffix ((skip_suffix s).trans ((shorter_of_skip hskip).suffix))) _
        · exact consumed_error _ _
    · exact consumed_error _ _

/-- A name with its colon is well formed or at fault. -/
theorem onlyFaults_memberName (t : Text) : OnlyFaults (memberName t) := by
  unfold memberName
  split
  · exact onlyFaults_fault _ _
  · split
    · refine onlyFaults_bind (onlyFaults_quotedText _ _) fun p => ?_
      obtain ⟨name, rest⟩ := p
      dsimp only
      split
      · exact onlyFaults_fault _ _
      · split
        · exact onlyFaults_ok _
        · exact onlyFaults_fault _ _
    · exact onlyFaults_fault _ _

/-! ## Numbers and words -/

/-- The digits before the point are one at least. -/
theorem shorter_wholePart? {whole : Text} (h : wholePart? t = some (whole, r)) : Shorter r t := by
  unfold wholePart? at h
  split at h
  · cases h
  · next c rest =>
    split at h
    · cases h
      exact shorter_cons c List.suffix_rfl
    · split at h
      · cases h
        exact shorter_cons c (List.dropWhile_suffix _)
      · cases h

/-- A fraction may be empty, so it leaves an end of the text and not always less. -/
theorem fractionPart_suffix (t : Text) : (fractionPart t).2 <:+ t := by
  unfold fractionPart
  split
  · exact List.suffix_rfl
  · next c r =>
    dsimp only
    split
    · exact (List.dropWhile_suffix _).trans (List.suffix_cons c r)
    · exact List.suffix_rfl

theorem exponentPart_suffix (t : Text) : (exponentPart t).2 <:+ t := by
  unfold exponentPart
  split
  · exact List.suffix_rfl
  · next c r =>
    dsimp only
    split
    · exact (List.dropWhile_suffix _).trans ((List.drop_suffix _ r).trans (List.suffix_cons c r))
    · exact List.suffix_rfl

/-- A numeral takes its whole part, and perhaps a fraction and an exponent. -/
theorem consumed_numeral (negative : Bool) (start t : Text) : Consumed t (numeral negative start t) := by
  unfold numeral
  split
  · exact consumed_error _ _
  · next whole r hwhole =>
    dsimp only
    cases number negative whole (fractionPart r).1 (exponentPart (fractionPart r).2).1 with
    | error e => exact consumed_error _ _
    | ok v =>
      exact consumed_ok ((shorter_wholePart? hwhole).of_suffix
        ((exponentPart_suffix _).trans (fractionPart_suffix r))) v

/-- A word or a numeral, with or without a sign, takes at least one code point. -/
theorem consumed_plain (t : Text) : Consumed t (plain t) := by
  unfold plain
  split
  · next found hfound =>
    obtain ⟨⟨word, value⟩, hmem, hafter⟩ := List.exists_of_findSome?_eq_some hfound
    obtain ⟨rest, hrest, rfl⟩ := Option.map_eq_some_iff.mp hafter
    rw [Text.after?_eq_some_iff] at hrest
    have hword : word ≠ [] := by
      rintro rfl
      simp [words, Text.ofString] at hmem
    obtain ⟨c, w, rfl⟩ := List.exists_cons_of_ne_nil hword
    rw [hrest]
    exact consumed_ok (shorter_cons c (List.suffix_append w rest)) value
  · split
    · exact consumed_error _ _
    · next c r _ =>
      split
      · intro v rest h
        exact (consumed_numeral true _ r v rest h).suffix_right (List.suffix_cons c r)
      · exact consumed_numeral false _ _

/-! ## Containers -/

/-- Behind an item less is left, whether the container ends there or goes on behind a comma. -/
theorem consumed_behind {close : CodePoint} {done more : Text → Except Stop (β × Text)} (hr : Shorter r t)
    (hdone : ∀ s, Shorter s t → Consumed t (done s)) (hmore : ∀ s, Shorter s t → Consumed t (more s)) :
    Consumed t (match skip r with
      | [] => .error (.fault .noComma [])
      | c :: s =>
        if c = close then done s else if c = CodePoint.ofChar ',' then more s
        else .error (.fault .noComma (c :: s)) : Except Stop (β × Text)) := by
  cases hskip : skip r with
  | nil => exact consumed_error _ _
  | cons c s =>
    have hs : Shorter s t := hr.of_suffix (shorter_of_skip hskip).suffix
    dsimp only
    split_ifs
    · exact hdone s hs
    · exact hmore s hs
    · exact consumed_error _ _

section Containers

variable {item : Reader Document} (hitem : ∀ t, Consumed t (item t))

include hitem

/-- Every round of the loop over the items takes an item and what stands behind it. -/
theorem consumed_items (fuel : Nat) (t : Text) : Consumed t (items item fuel t) := by
  induction fuel generalizing t with
  | zero => exact consumed_error _ _
  | succ fuel ih =>
    refine consumed_bind fun v r hv => consumed_behind (hitem t v r hv) (fun s hs => consumed_ok hs _) fun s hs => ?_
    refine consumed_bind fun vs rest hvs => consumed_ok ?_ _
    exact hs.of_suffix ((ih (skip s) vs rest hvs).suffix.trans (skip_suffix s))

/-- Every round of the loop over the members takes a name, a value and what stands behind it. -/
theorem consumed_members (fuel : Nat) (t : Text) : Consumed t (members item fuel t) := by
  induction fuel generalizing t with
  | zero => exact consumed_error _ _
  | succ fuel ih =>
    refine consumed_bind fun name q hname => consumed_bind fun v r hv => ?_
    have hr : Shorter r t := (consumed_memberName t name q hname).of_suffix (hitem q v r hv).suffix
    refine consumed_behind hr (fun s hs => consumed_ok hs _) fun s hs => ?_
    refine consumed_bind fun vs rest hvs => consumed_ok ?_ _
    exact hs.of_suffix ((ih (skip s) vs rest hvs).suffix.trans (skip_suffix s))

theorem consumed_arrayRest (t : Text) : Consumed t (arrayRest item t) := by
  unfold arrayRest
  split
  · exact consumed_error _ _
  · next c s hskip =>
    have hsuffix : c :: s <:+ t := hskip ▸ skip_suffix t
    split
    · exact consumed_ok ((shorter_cons c List.suffix_rfl).suffix_right hsuffix) _
    · refine consumed_bind fun vs rest hvs => consumed_ok ?_ _
      exact (consumed_items hitem _ _ vs rest hvs).suffix_right hsuffix

theorem consumed_objectRest (t : Text) : Consumed t (objectRest item t) := by
  unfold objectRest
  split
  · exact consumed_error _ _
  · next c s hskip =>
    have hsuffix : c :: s <:+ t := hskip ▸ skip_suffix t
    split
    · exact consumed_ok ((shorter_cons c List.suffix_rfl).suffix_right hsuffix) _
    · refine consumed_bind fun vs rest hvs => consumed_ok ?_ _
      exact (consumed_members hitem _ _ vs rest hvs).suffix_right hsuffix

end Containers

/-- A value takes at least one code point, whatever the depth. -/
theorem consumed_value (depth : Nat) (t : Text) : Consumed t (value depth t) := by
  induction depth using Nat.strong_induction_on generalizing t with
  | h depth ih =>
    fun_cases value depth t with
    | case1 | case3 | case5 => exact consumed_error _ _
    | case2 _ r =>
      refine consumed_bind fun w rest hw => consumed_ok ?_ _
      exact (consumed_quotedText _ _ w rest hw).suffix_right (List.suffix_cons _ r)
    | case4 r depth =>
      intro v rest h
      exact (consumed_arrayRest (ih depth (Nat.lt_succ_self _)) r v rest h).suffix_right (List.suffix_cons _ r)
    | case6 r depth =>
      intro v rest h
      exact (consumed_objectRest (ih depth (Nat.lt_succ_self _)) r v rest h).suffix_right (List.suffix_cons _ r)
    | case7 => exact consumed_plain _

end IndexOptions.Document
