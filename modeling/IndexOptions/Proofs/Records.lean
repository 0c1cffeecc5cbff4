import IndexOptions.Proofs.Reading

/-!
# Records and their slots

What the members of an object have to be like is a list of slots (`Reading.Slot`): each names a member, says whether it
has to be there, and which values it admits. Members fit the slots (`Reading.Fits`) if every slot is filled and there
are no others. A slot is filled exactly if the reader of the field gives a value (`filled_optional_iff`,
`filled_required_iff`).

A reader that fails has at least one problem (`Checked.Explained`), so a check without problems gives a value
(`Checked.problems_eq_nil_iff`).
-/

namespace IndexOptions

/-! ## Failures have problems -/

namespace Checked

variable {α β : Type} {x : Checked α} {y : Checked β}

/-- A failure comes with a problem. -/
def Explained (x : Checked α) : Prop := x ≠ .error []

/-- A check that explains its failures finds nothing exactly if it gives a value. -/
theorem problems_eq_nil_iff (h : x.Explained) : x.problems = [] ↔ ∃ a, x = .ok a := by
  cases x with
  | ok a => simp [problems]
  | error ps =>
    have hps : ps ≠ [] := fun hnil => h (by rw [hnil])
    simp [problems, hps]

/-- A check that finds problems fails with all of them. -/
theorem eq_error_of_problems (h : x.problems ≠ []) : x = .error x.problems := by
  cases x with
  | ok a => exact absurd rfl h
  | error ps => rfl

theorem explained_ok (a : α) : Explained (.ok a : Checked α) := by
  rintro ⟨⟩

theorem explained_refuse (cause : Cause) (v : Document) : Explained (refuse cause v : Checked α) := by
  rintro ⟨⟩

theorem explained_map (h : x.Explained) (f : α → β) : Explained (x.map f) := by
  cases x with
  | ok a => exact explained_ok _
  | error ps => exact fun hps => h (by cases hps; rfl)

theorem explained_under (h : x.Explained) (step : Step) : Explained (x.under step) := by
  cases x with
  | ok a => exact explained_ok a
  | error ps =>
    intro hps
    have hnil : ps.map (Problem.under step) = [] := Except.error.inj hps
    exact h (by rw [List.map_eq_nil_iff.mp hnil])

/-- Explained failures come from explained steps, whatever the later ones depend on. -/
theorem explained_bind {f : α → Checked β} (h : x.Explained) (hf : ∀ a, (f a).Explained) : Explained (x >>= f) := by
  cases x with
  | ok a => exact hf a
  | error ps => exact fun hps => h (by cases hps; rfl)

/-- Of two checks side by side each may fail; the problems of both are kept, so there is one. -/
theorem explained_and (hx : x.Explained) (hy : y.Explained) : (x.and y).Explained := by
  cases x with
  | ok a =>
    cases y with
    | ok b => exact explained_ok _
    | error qs => exact fun hps => hy (by cases hps; rfl)
  | error ps =>
    have hps : ps ≠ [] := fun hnil => hx (by rw [hnil])
    cases y with
    | ok b => exact fun hnil => hps (Except.error.inj hnil)
    | error qs => exact fun hnil => hps (List.append_eq_nil_iff.mp (Except.error.inj hnil)).1

/-- A failure of a list of checks is explained by the one that failed. -/
theorem explained_all {xs : List (Checked α)} (h : ∀ x ∈ xs, x.Explained) : (all xs).Explained := by
  induction xs with
  | nil => exact explained_ok _
  | cons x xs ih =>
    exact explained_map (explained_and (h x List.mem_cons_self) (ih fun x hx => h x (List.mem_cons_of_mem _ hx))) _

end Checked

namespace Reading

open Checked

variable {α : Type} {members : Entries Document} {field : Text} {default : α} {read : Document → Checked α}

theorem explained_text (v : Document) : (text v).Explained := by
  cases v <;> first | exact explained_ok _ | exact explained_refuse _ _

/-- A text that is no name is refused for its form or for its length. -/
theorem explained_name (v : Document) : (name v).Explained := by
  unfold name boundedText
  split
  · split
    · exact explained_refuse _ _
    · split
      · exact explained_refuse _ _
      · exact explained_ok _
  · exact explained_refuse _ _

theorem explained_nullable (h : ∀ v, (read v).Explained) (v : Document) : (nullable read v).Explained := by
  unfold nullable
  split
  · exact explained_ok _
  · exact explained_map (h v) _

theorem explained_flag (v : Document) : (flag v).Explained := by
  unfold flag
  repeat' split
  all_goals first | exact explained_ok _ | exact explained_refuse _ _

/-- Every value that is no integer in any of its forms is refused for some cause. -/
theorem explained_integer (v : Document) : (integer v).Explained := by
  unfold integer
  repeat' split
  all_goals first | exact explained_ok _ | exact explained_refuse _ _

theorem explained_integerBetween (low high : Nat) (v : Document) : (integerBetween low high v).Explained := by
  refine explained_bind (explained_integer v) fun i => ?_
  repeat' split
  all_goals first | exact explained_ok _ | exact explained_refuse _ _

/-- A field that has to be there is missing, or its value is refused. -/
theorem explained_requiredField (h : ∀ v, (read v).Explained) : (requiredField members field read).Explained := by
  unfold requiredField
  split
  · exact explained_under (h _) _
  · rintro ⟨⟩

/-- A field that may be left out fails only through its value. -/
theorem explained_optionalField (h : ∀ v, (read v).Explained) :
    (optionalField members field default read).Explained := by
  unfold optionalField
  split
  · exact explained_under (h _) _
  · exact explained_ok _

/-- What a closed record reports are its undeclared members, in their order. -/
theorem problems_closed (declared : List Text) (members : Entries Document) :
    (closed declared members).problems = undeclared declared members := by
  unfold closed
  split
  · next h => exact h.symm
  · rfl

theorem explained_closed (declared : List Text) (members : Entries Document) : (closed declared members).Explained := by
  unfold closed
  split
  · exact explained_ok _
  · next hne => exact fun h => hne (Except.error.inj h)

theorem explained_encodableNames (members : Entries Document) : (encodableNames members).Explained := by
  unfold encodableNames
  split
  · exact explained_ok _
  · rintro ⟨⟩

/-- A tag is missing, unknown or no text, and each of these is a problem. -/
theorem explained_tagged (expected : List Text) (v : Document) : (tagged expected v).Explained := by
  unfold tagged
  repeat' split
  all_goals first | exact explained_ok _ | exact explained_refuse _ _

/-! ## Fields that have a value -/

/-- A required field gives a value if it is there and its value is read. -/
theorem exists_requiredField_iff :
    (∃ a, requiredField members field read = .ok a) ↔ ∃ v ∈ members.get? field, ∃ a, read v = .ok a := by
  simp only [requiredField_eq_ok_iff]
  cases members.get? field <;> simp

/-- An optional field gives a value if it is left out or its value is read. -/
theorem exists_optionalField_iff :
    (∃ a, optionalField members field default read = .ok a) ↔ ∀ v ∈ members.get? field, ∃ a, read v = .ok a := by
  simp only [optionalField_eq_ok_iff]
  cases members.get? field <;> simp

/-! ## Slots -/

/-- A member of a record: its name, whether it has to be there, and the values it may have. -/
structure Slot where
  name : Text
  required : Bool
  Admits : Document → Prop

/-- The member has an admitted value, or is left out where that is allowed. -/
def Slot.Filled (s : Slot) (members : Entries Document) : Prop :=
  match members.get? s.name with
  | some v => s.Admits v
  | none => s.required = false

/-- Every slot is filled, and there are no other members. -/
structure Fits (slots : List Slot) (members : Entries Document) : Prop where
  filled : ∀ s ∈ slots, s.Filled members
  declared : ∀ e ∈ members, e.1 ∈ slots.map Slot.name

/-- A slot that may stay empty is filled exactly if the optional field gives a value. -/
theorem filled_optional_iff (default : α) {Admits : Document → Prop} (h : ∀ v, Admits v ↔ ∃ a, read v = .ok a) :
    Slot.Filled ⟨field, false, Admits⟩ members ↔ ∃ a, optionalField members field default read = .ok a := by
  rw [exists_optionalField_iff, Slot.Filled]
  cases members.get? field <;> simp [h]

/-- A slot that has to be filled is so exactly if the required field gives a value. -/
theorem filled_required_iff {Admits : Document → Prop} (h : ∀ v, Admits v ↔ ∃ a, read v = .ok a) :
    Slot.Filled ⟨field, true, Admits⟩ members ↔ ∃ a, requiredField members field read = .ok a := by
  rw [exists_requiredField_iff, Slot.Filled]
  cases members.get? field <;> simp [h]

/-- Where the names of the slots have a UTF-8 form, the names of fitting members have one too. -/
theorem fits_iff {slots : List Slot} (hs : ∀ s ∈ slots, s.name.isEncodable) :
    Fits slots members ↔ (∀ e ∈ members, e.1.isEncodable) ∧ (∀ s ∈ slots, s.Filled members) ∧
      ∀ e ∈ members, e.1 ∈ slots.map Slot.name := by
  constructor
  · intro h
    refine ⟨fun e he => ?_, h.filled, h.declared⟩
    obtain ⟨s, hmem, hname⟩ := List.mem_map.mp (h.declared e he)
    rw [← hname]
    exact hs s hmem
  · rintro ⟨-, hfilled, hdeclared⟩
    exact ⟨hfilled, hdeclared⟩

/-- The slot of a tag. -/
def typeSlot (tag : Text) : Slot := ⟨"type", true, fun v => v = .text tag⟩

/-- The slot of a tag is filled by that tag alone. -/
theorem filled_typeSlot_iff {tag : Text} :
    (typeSlot tag).Filled members ↔ members.get? "type" = some (.text tag) := by
  unfold Slot.Filled typeSlot
  cases members.get? "type" <;> simp

/-- Readers of records look at the names first. -/
theorem exists_encodableNames_bind_iff {f : Unit → Checked α} :
    (∃ a, (encodableNames members >>= f) = .ok a) ↔ (∀ e ∈ members, e.1.isEncodable) ∧ ∃ a, f () = .ok a := by
  simp only [Checked.bind_eq_ok_iff, encodableNames_eq_ok_iff]
  constructor
  · rintro ⟨a, u, hnames, h⟩
    exact ⟨hnames, a, h⟩
  · rintro ⟨hnames, a, h⟩
    exact ⟨a, (), hnames, h⟩

/-! ## Values of slots -/

/-- A text that is a name. -/
def HoldsName (v : Document) : Prop := ∃ t, v = .text t ∧ IsName t

/-- A name or nothing. -/
def HoldsNameOrNull (v : Document) : Prop := v = .null ∨ HoldsName v

/-- Any text or nothing. -/
def HoldsTextOrNull (v : Document) : Prop := v = .null ∨ ∃ t, v = .text t

/-- A flag in one of its forms: itself, zero or one, or a word. -/
def HoldsFlag : Document → Prop
  | .bool _ => True
  | .integer i => i = 0 ∨ i = 1
  | .real x => x.toInt? = some 0 ∨ x.toInt? = some 1
  | .text t => t.isEncodable ∧ (t.lower ∈ flagWords true ∨ t.lower ∈ flagWords false)
  | _ => False

/-- An integer, in one of its forms, within bounds. -/
def HoldsIntegerBetween (low high : Nat) (v : Document) : Prop := ∃ i, integer v = .ok i ∧ low ≤ i ∧ i ≤ high

/-- Names are the values that are read as names. -/
theorem holdsName_iff (v : Document) : HoldsName v ↔ ∃ t, name v = .ok t := by
  simp only [HoldsName, name_eq_ok_iff]

/-- A value that may be null is read if it is null, or else as without that choice. -/
theorem nullable_ok_iff (hnull : ∀ a, read .null ≠ .ok a) (v : Document) :
    (∃ o, nullable read v = .ok o) ↔ v = .null ∨ ∃ a, read v = .ok a := by
  simp only [nullable_eq_ok_iff]
  constructor
  · rintro ⟨o, ⟨hv, -⟩ | ⟨-, a, ha, -⟩⟩
    · exact Or.inl hv
    · exact Or.inr ⟨a, ha⟩
  · rintro (hv | ⟨a, ha⟩)
    · exact ⟨none, Or.inl ⟨hv, rfl⟩⟩
    · refine ⟨some a, Or.inr ⟨?_, a, ha, rfl⟩⟩
      rintro rfl
      exact hnull a ha

theorem holdsNameOrNull_iff (v : Document) : HoldsNameOrNull v ↔ ∃ o, nullable name v = .ok o := by
  rw [nullable_ok_iff (by rintro _ ⟨⟩), HoldsNameOrNull, holdsName_iff]

theorem holdsTextOrNull_iff (v : Document) : HoldsTextOrNull v ↔ ∃ o, nullable text v = .ok o := by
  rw [nullable_ok_iff (by rintro _ ⟨⟩), HoldsTextOrNull]
  simp only [text_eq_ok_iff]

/-- Of the integers only zero and one are flags. -/
theorem exists_flagOfInt?_iff {i : Int} : (∃ b, flagOfInt? i = some b) ↔ i = 0 ∨ i = 1 := by
  unfold flagOfInt?
  split
  · simp [*]
  · split <;> simp [*]

/-- The words for flags may be written in any case. -/
theorem exists_flagOfText?_iff {t : Text} :
    (∃ b, flagOfText? t = some b) ↔ t.lower ∈ flagWords true ∨ t.lower ∈ flagWords false := by
  unfold flagOfText?
  simp only [List.contains_iff_mem]
  split
  · simp [*]
  · split <;> simp [*]

/-- The forms of a flag, kind by kind of value, are those that the reader takes. -/
theorem holdsFlag_iff (v : Document) : HoldsFlag v ↔ ∃ b, flag v = .ok b := by
  cases v with
  | bool b => simp [HoldsFlag, flag]
  | integer i =>
    rw [HoldsFlag, ← exists_flagOfInt?_iff, flag]
    cases flagOfInt? i <;> simp [refuse]
  | real x =>
    rw [HoldsFlag, flag]
    cases x.toInt? with
    | none => simp [refuse]
    | some i =>
      simp only [Option.some.injEq, ← exists_flagOfInt?_iff]
      cases flagOfInt? i <;> simp [refuse]
  | text t =>
    rw [HoldsFlag, ← exists_flagOfText?_iff, flag]
    cases t.isEncodable with
    | false => simp [refuse]
    | true => cases flagOfText? t <;> simp [refuse]
  | _ => simp [HoldsFlag, flag, refuse]

/-- The bounds are checked after the integer is read, whichever form it has. -/
theorem holdsIntegerBetween_iff {low high : Nat} (v : Document) :
    HoldsIntegerBetween low high v ↔ ∃ i, integerBetween low high v = .ok i := by
  constructor
  · rintro ⟨i, hi, hlow, hhigh⟩
    refine ⟨i, Checked.bind_eq_ok_iff.mpr ⟨i, hi, ?_⟩⟩
    rw [if_neg (by omega), if_neg (by omega)]
  · rintro ⟨i, h⟩
    obtain ⟨j, hj, hbounds⟩ := Checked.bind_eq_ok_iff.mp h
    split at hbounds
    · cases hbounds
    · split at hbounds
      · cases hbounds
      · cases hbounds
        exact ⟨i, hj, by omega, by omega⟩

end Reading

end IndexOptions
