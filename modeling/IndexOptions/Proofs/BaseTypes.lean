import IndexOptions.Proofs.TypeGrammar

/-!
# Base types of arbitrary texts

`base` goes down from the normal form of a text, one pair of brackets after the other, whether or not the text is a
type. `Descends` counts these steps and does without fuel. A step is taken exactly from the texts of the form of a type
that stands for another one (`element?_eq_none_iff`), and gives a shorter part of the text (`length_lt_of_element?`,
`infix_of_element?`), also where the brackets do not match. So:

- going down ends, and with the fuel of `reduce` (`descends_reduce`, `eq_reduce_of_descends`);
- what it ends with is in normal form and leads nowhere (`base_base`).

`base_normalizes` puts this together.
-/

namespace IndexOptions.ColumnType

variable {arguments name t u : Text} {rounds : Nat}

/-! ## Texts that stand for another one -/

/-- The form of a type that stands for another one: one of the four names with an opening bracket in front, and a
closing bracket at the end. -/
def IsStandIn (t : Text) : Prop :=
  ∃ name ∈ standIns, name ++ [CodePoint.ofChar '<'] <+: t ∧ [CodePoint.ofChar '>'] <:+ t

instance : DecidablePred IsStandIn := fun _ => inferInstanceAs (Decidable (∃ _ ∈ standIns, _))

/-- The two brackets are different ones, so there is room for both. -/
theorem exists_generic_iff :
    (∃ arguments, t = generic name arguments) ↔
      name ++ [CodePoint.ofChar '<'] <+: t ∧ [CodePoint.ofChar '>'] <:+ t := by
  constructor
  · rintro ⟨arguments, rfl⟩
    exact ⟨⟨arguments ++ [CodePoint.ofChar '>'], by simp [generic]⟩,
      ⟨name ++ CodePoint.ofChar '<' :: arguments, by simp [generic]⟩⟩
  · rintro ⟨⟨rest, rfl⟩, front, hfront⟩
    rcases List.eq_nil_or_concat' rest with rfl | ⟨arguments, c, rfl⟩
    · rw [List.append_nil] at hfront
      obtain ⟨-, hbrackets⟩ := List.append_inj' hfront rfl
      exact absurd hbrackets (by decide)
    · rw [← List.append_assoc] at hfront
      obtain ⟨-, hlast⟩ := List.append_inj' hfront rfl
      exact ⟨arguments, by rw [← hlast]; simp [generic]⟩

theorem isStandIn_iff : IsStandIn t ↔ ∃ name ∈ standIns, ∃ arguments, t = generic name arguments := by
  simp only [IsStandIn, exists_generic_iff]

/-- A step is taken from every text of this form, and from no other one. -/
theorem element?_eq_none_iff : element? t = none ↔ ¬IsStandIn t := by
  rw [isStandIn_iff]
  constructor
  · rintro hnone ⟨name, hname, arguments, rfl⟩
    rw [element?_generic (isMark_of_mem_standIns hname)] at hnone
    rcases List.mem_cons.mp hname with rfl | hwrapper
    · rw [if_neg (by decide), if_pos rfl, List.getLast?_eq_none_iff] at hnone
      exact splitFrom_ne_nil 0 arguments hnone
    · rw [if_pos hwrapper] at hnone
      cases hnone
  · intro h
    apply Option.eq_none_iff_forall_ne_some.mpr
    intro u hu
    rcases element?_eq_some_iff.mp hu with ⟨w, rfl⟩ | ⟨arguments, rfl, -⟩
    · exact h ⟨w.word, by cases w <;> decide, u, rfl⟩
    · exact h ⟨mapWord, List.mem_cons_self, arguments, rfl⟩

theorem exists_element_of_isStandIn (h : IsStandIn t) : ∃ u, element? t = some u :=
  Option.ne_none_iff_exists'.mp fun hnone => element?_eq_none_iff.mp hnone h

/-! ## Steps -/

theorem infix_generic (name arguments : Text) : arguments <:+: generic name arguments :=
  ⟨name ++ [CodePoint.ofChar '<'], [CodePoint.ofChar '>'], by simp [generic]⟩

theorem IsLast.isInfix (h : IsLast arguments u) : u <:+: arguments := by
  obtain ⟨-, rfl | ⟨before, rfl, -⟩⟩ := h
  · exact List.infix_rfl
  · exact ((List.suffix_cons _ u).trans (List.suffix_append before _)).isInfix

/-- A step gives a part of the text. -/
theorem infix_of_element? (h : element? t = some u) : u <:+: t := by
  rcases element?_eq_some_iff.mp h with ⟨w, rfl⟩ | ⟨arguments, rfl, hlast⟩
  · exact infix_generic w.word u
  · exact hlast.isInfix.trans (infix_generic mapWord arguments)

/-- A number of steps down from a text. -/
inductive Descends : Nat → Text → Text → Prop
  | none (t : Text) : Descends 0 t t
  | more {rounds : Nat} {t u v : Text} (hstep : element? t = some u) (hrest : Descends rounds u v) :
    Descends (rounds + 1) t v

/-- Each step makes the text shorter, so there are not more steps than code points. -/
theorem Descends.length_add_le (h : Descends rounds t u) : u.length + rounds ≤ t.length := by
  induction h with
  | none => exact Nat.le_refl _
  | more hstep _ ih =>
    have hshorter := length_lt_of_element? hstep
    omega

theorem Descends.isInfix (h : Descends rounds t u) : u <:+: t := by
  induction h with
  | none => exact List.infix_rfl
  | more hstep _ ih => exact ih.trans (infix_of_element? hstep)

/-! ## Going down ends -/

theorem exists_descends_reduceFrom (fuel : Nat) (t : Text) : ∃ rounds, Descends rounds t (reduceFrom fuel t) := by
  induction fuel generalizing t with
  | zero => exact ⟨0, .none t⟩
  | succ fuel ih =>
    rw [reduceFrom]
    split
    · next u hu =>
      obtain ⟨rounds, hrounds⟩ := ih u
      exact ⟨rounds + 1, .more hu hrounds⟩
    · exact ⟨0, .none t⟩

theorem descends_reduce (t : Text) : ∃ rounds, Descends rounds t (reduce t) := exists_descends_reduceFrom _ t

theorem not_isStandIn_reduce (t : Text) : ¬IsStandIn (reduce t) := element?_eq_none_iff.mp (element?_reduce t)

/-- Going down ends nowhere else. -/
theorem eq_reduce_of_descends (h : Descends rounds t u) (hu : ¬IsStandIn u) : u = reduce t := by
  induction h with
  | none => exact (reduce_of_element?_eq_none (element?_eq_none_iff.mpr hu)).symm
  | more hstep _ ih => rw [ih hu, reduce_of_element? hstep]

theorem reduce_isInfix (t : Text) : reduce t <:+: t := by
  obtain ⟨rounds, h⟩ := descends_reduce t
  exact h.isInfix

/-! ## Normal forms -/

theorem isBlank_normal (t : Text) : ∀ c ∈ normal t, c.isBlank = false :=
  Text.isBlank_lower fun c hc => by simpa [Text.withoutBlanks] using (List.mem_filter.mp hc).2

/-- Every part of a normal form is in normal form. -/
theorem normal_of_isInfix (h : u <:+: normal t) : normal u = u := by
  have hblank : ∀ c ∈ u, c.isBlank = false := fun c hc => isBlank_normal t c (h.subset hc)
  rw [normal, Text.withoutBlanks_eq_self hblank, Text.lower_of_infix_lower h]

theorem base_isInfix (t : Text) : base t <:+: normal t := reduce_isInfix _

theorem base_base (t : Text) : base (base t) = base t := by
  have hlast : element? (base t) = none := element?_reduce _
  rw [base, normal_of_isInfix (base_isInfix t), reduce_of_element?_eq_none hlast]

/-- **Every text has a base type.** Going down from the normal form ends with the base type: there are not more steps
than code points, and each text on the way is the base type, or has the form of a type that stands for another one and
leads to a shorter text. The base type does not have this form and no blanks; it is a part of the text without blanks
and in lower case, and it is its own base type. -/
theorem base_normalizes (t : Text) :
    (∃ rounds, Descends rounds (normal t) (base t)) ∧
      (∀ rounds u, Descends rounds (normal t) u → u.length + rounds ≤ (normal t).length ∧
        (¬IsStandIn u ∧ u = base t ∨ IsStandIn u ∧ ∃ v, element? u = some v ∧ v.length < u.length)) ∧
      ¬IsStandIn (base t) ∧ (∀ c ∈ base t, c.isBlank = false) ∧ base t <:+: t.withoutBlanks.lower ∧
      base (base t) = base t := by
  refine ⟨descends_reduce _, fun rounds u h => ⟨h.length_add_le, ?_⟩, not_isStandIn_reduce _, ?_, base_isInfix t,
    base_base t⟩
  · by_cases hu : IsStandIn u
    · obtain ⟨v, hv⟩ := exists_element_of_isStandIn hu
      exact Or.inr ⟨hu, v, hv, length_lt_of_element? hv⟩
    · exact Or.inl ⟨hu, eq_reduce_of_descends h hu⟩
  · exact fun c hc => isBlank_normal t c ((base_isInfix t).subset hc)

/-- A text with a closing bracket that closes nothing, in front of the comma at which its value begins. -/
def closingFirst : Text := " MAP<a>,<,\tList<Set<>>>"

/-- It takes three steps to the empty text, which is its base type. -/
theorem base_normalizes_closingFirst :
    Descends 3 (normal closingFirst) [] ∧ 3 ≤ (normal closingFirst).length ∧ base closingFirst = [] := by
  have hdescends : Descends 3 (normal closingFirst) [] :=
    .more (u := "list<set<>>") (by decide +kernel) (.more (u := "set<>") (by decide +kernel)
      (.more (by decide +kernel) (.none _)))
  obtain ⟨-, hall, -, -, -, -⟩ := base_normalizes closingFirst
  obtain ⟨hrounds, hend⟩ := hall 3 [] hdescends
  have hempty : ¬IsStandIn [] := by decide
  rw [List.length_nil, Nat.zero_add] at hrounds
  rcases hend with ⟨-, hbase⟩ | ⟨hstandIn, -⟩
  · exact ⟨hdescends, hrounds, hbase.symm⟩
  · exact absurd hstandIn hempty

end IndexOptions.ColumnType
