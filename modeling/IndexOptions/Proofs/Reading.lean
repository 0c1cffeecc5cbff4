import IndexOptions.Reading.Basic
import IndexOptions.Reading.Number

/-!
# What readers accept

For each reader, the values that it accepts and what it makes of them, as one equivalence: `name_eq_ok_iff`,
`nullable_eq_ok_iff`, `textMap_eq_ok_iff`, `requiredField_eq_ok_iff`, `optionalField_eq_ok_iff`, `closed_eq_ok_iff`,
`tagged_eq_ok_iff`, `bind_tagged_eq_ok_iff`. A field that is read as a name holds a name (`isName_of_requiredField` and
its companions).

The names of members are literals. Different literals are different texts (`Text.ofString_inj`), and all of them have a
UTF-8 form (`Text.isEncodable_ofString`).
-/

namespace IndexOptions

/-! ## Literals -/

theorem CodePoint.ofChar_injective {c d : Char} (h : ofChar c = ofChar d) : c = d := by
  have hv : (ofChar c).val = (ofChar d).val := by rw [h]
  rw [val_ofChar, val_ofChar] at hv
  exact Char.toNat_inj.mp hv

@[simp] theorem Text.ofString_inj {s t : String} : Text.ofString s = Text.ofString t ↔ s = t := by
  constructor
  · intro h
    apply String.toList_inj.mp
    unfold Text.ofString at h
    generalize s.toList = cs at h ⊢
    generalize t.toList = ds at h ⊢
    induction cs generalizing ds with
    | nil => cases ds <;> simp_all
    | cons c cs ih =>
      cases ds with
      | nil => simp at h
      | cons d ds =>
        rw [List.map_cons, List.map_cons, List.cons.injEq] at h
        rw [CodePoint.ofChar_injective h.1, ih ds h.2]
  · rintro rfl
    rfl

/-- A character is no half of a surrogate pair. -/
theorem CodePoint.isSurrogate_ofChar (c : Char) : (ofChar c).isSurrogate = false := by
  have hv := val_ofChar c
  have hc := c.valid
  simp only [isSurrogate, hv]
  unfold Char.toNat
  rcases hc with h | h
  · simp only [Bool.and_eq_false_iff, decide_eq_false_iff_not]
    omega
  · simp only [Bool.and_eq_false_iff, decide_eq_false_iff_not]
    omega

@[simp] theorem Text.isEncodable_ofString (s : String) : (Text.ofString s).isEncodable := by
  simp [Text.isEncodable, Text.ofString, CodePoint.isSurrogate_ofChar]

namespace Checked

variable {α β : Type} {x : Checked α}

theorem map_eq_ok_iff {f : α → β} {b : β} : x.map f = .ok b ↔ ∃ a, x = .ok a ∧ f a = b := by
  cases x <;> simp [Except.map]

theorem bind_eq_ok_iff {f : α → Checked β} {b : β} : (x >>= f) = .ok b ↔ ∃ a, x = .ok a ∧ f a = .ok b := by
  cases x <;> simp [bind, Except.bind]

end Checked

namespace Reading

open Checked (refuse)

variable {α : Type} {members : Entries Document} {field : Text} {v : Document} {t : Text} {a default : α}
  {read : Document → Checked α}

/-! ## Texts -/

/-- Texts are read as they are, with or without a UTF-8 form. -/
theorem text_eq_ok_iff : text v = .ok t ↔ v = .text t := by
  cases v <;> simp [text, refuse]

/-- A text within the bounds, with a UTF-8 form. -/
theorem boundedText_eq_ok_iff {least : Nat} {most : Option Nat} :
    boundedText least most v = .ok t ↔
      v = .text t ∧ t.isEncodable ∧ least ≤ t.length ∧ ∀ n ∈ most, t.length ≤ n := by
  constructor
  · intro h
    cases v with
    | text u =>
      dsimp only [boundedText] at h
      split at h
      · cases h
      · next he =>
        split at h
        · cases h
        · next hl =>
          cases most with
          | none =>
            cases h
            exact ⟨rfl, by simpa using he, Nat.le_of_not_lt hl, by simp⟩
          | some n =>
            dsimp only at h
            split at h
            · cases h
            · next hm =>
              cases h
              exact ⟨rfl, by simpa using he, Nat.le_of_not_lt hl, by simpa using Nat.le_of_not_lt hm⟩
    | _ => cases h
  · rintro ⟨rfl, he, hl, hm⟩
    dsimp only [boundedText]
    rw [if_neg (by simp [he]), if_neg (Nat.not_lt.mpr hl)]
    cases most with
    | none => rfl
    | some n => exact if_neg (Nat.not_lt.mpr (hm n rfl))

/-- A text with a UTF-8 form and at least one code point. -/
def IsName (t : Text) : Prop := t.isEncodable ∧ t ≠ []

/-- A name is a text with a UTF-8 form that is not empty. -/
theorem name_eq_ok_iff : name v = .ok t ↔ v = .text t ∧ IsName t := by
  rw [name, boundedText_eq_ok_iff, IsName]
  cases t <;> simp

/-- Null is nothing, and any other value is read as it would be alone. -/
theorem nullable_eq_ok_iff {o : Option α} :
    nullable read v = .ok o ↔ (v = .null ∧ o = none) ∨ (v ≠ .null ∧ ∃ a, read v = .ok a ∧ o = some a) := by
  unfold nullable
  split
  · simp [eq_comm]
  · next hv =>
    rw [Checked.map_eq_ok_iff]
    have : v ≠ .null := hv
    simp [this, eq_comm]

/-- A map of texts is read entry by entry. -/
theorem textMap_eq_ok_iff {es : Entries Text} :
    textMap v = .ok es ↔ v = .object (es.map fun e => (e.1, .text e.2)) := by
  cases v with
  | object members =>
    rw [textMap, Checked.all_eq_ok_iff, Document.object.injEq]
    induction members generalizing es with
    | nil => cases es <;> simp
    | cons member members ih =>
      obtain ⟨name, v⟩ := member
      cases es with
      | nil => simp
      | cons e es =>
        simp only [List.map_cons, List.cons.injEq, Checked.under_eq_ok_iff, Checked.map_eq_ok_iff, text_eq_ok_iff, ih]
        constructor
        · rintro ⟨⟨t, rfl, rfl⟩, h⟩
          exact ⟨rfl, h⟩
        · rintro ⟨h, hs⟩
          cases h
          exact ⟨⟨_, rfl, rfl⟩, hs⟩
  | _ => simp [textMap, Checked.refuse]

/-! ## Fields -/

/-- A required field is there and read. -/
theorem requiredField_eq_ok_iff :
    requiredField members field read = .ok a ↔ ∃ v, members.get? field = some v ∧ read v = .ok a := by
  unfold requiredField
  cases members.get? field <;> simp [Checked.under_eq_ok_iff]

/-- An optional field is left out and has its default, or is there and read. -/
theorem optionalField_eq_ok_iff :
    optionalField members field default read = .ok a ↔
      (members.get? field = none ∧ a = default) ∨ ∃ v, members.get? field = some v ∧ read v = .ok a := by
  unfold optionalField
  cases members.get? field with
  | none => simp [eq_comm]
  | some v => simp [Checked.under_eq_ok_iff]

theorem isName_of_requiredField (h : requiredField members field name = .ok t) : IsName t := by
  obtain ⟨v, -, hv⟩ := requiredField_eq_ok_iff.mp h
  exact (name_eq_ok_iff.mp hv).2

theorem isName_of_optionalField {u : Text} (hu : IsName u) (h : optionalField members field u name = .ok t) :
    IsName t := by
  rcases optionalField_eq_ok_iff.mp h with ⟨-, rfl⟩ | ⟨v, -, hv⟩
  · exact hu
  · exact (name_eq_ok_iff.mp hv).2

/-- A field that may be null or left out holds a name or nothing. -/
theorem isName_of_nullableField {o : Option Text} (h : optionalField members field none (nullable name) = .ok o) :
    ∀ t ∈ o, IsName t := by
  rintro t rfl
  rcases optionalField_eq_ok_iff.mp h with ⟨-, ho⟩ | ⟨v, -, hv⟩
  · cases ho
  · rcases nullable_eq_ok_iff.mp hv with ⟨-, ho⟩ | ⟨-, u, hu, ho⟩
    · cases ho
    · cases ho
      exact (name_eq_ok_iff.mp hu).2

/-- A text that may be missing is read from the text or from null. -/
theorem nullable_ofText? {read : Document → Checked Text} {o : Option Text} (h : ∀ t ∈ o, read (.text t) = .ok t) :
    nullable read (Document.ofText? o) = .ok o := by
  cases o with
  | none => rfl
  | some t => exact Checked.map_eq_ok_iff.mpr ⟨t, h t rfl, rfl⟩

/-- A closed record has no names but the declared ones. -/
theorem closed_eq_ok_iff {declared : List Text} {u : Unit} :
    closed declared members = .ok u ↔ ∀ e ∈ members, e.1 ∈ declared := by
  unfold closed
  have hempty : undeclared declared members = [] ↔ ∀ e ∈ members, e.1 ∈ declared := by
    simp [undeclared]
  rw [← hempty]
  cases undeclared declared members <;> simp

theorem encodableNames_eq_ok_iff {u : Unit} :
    encodableNames members = .ok u ↔ ∀ e ∈ members, e.1.isEncodable := by
  unfold encodableNames
  have hkeys : members.keys.all Text.isEncodable ↔ ∀ e ∈ members, e.1.isEncodable := by
    simp [Entries.keys]
  rw [← hkeys]
  split <;> simp_all

theorem encodableNames_bind {β : Type} (h : ∀ e ∈ members, e.1.isEncodable) (f : Unit → Checked β) :
    (encodableNames members >>= f) = f () := by
  have hu : encodableNames members = .ok () := encodableNames_eq_ok_iff.mpr h
  rw [hu]
  rfl

/-- An object is read by its tag, which has to be an expected one. -/
theorem tagged_eq_ok_iff {expected : List Text} :
    tagged expected v = .ok (t, members) ↔
      v = .object members ∧ members.get? "type" = some (.text t) ∧ t ∈ expected := by
  cases v with
  | object ms =>
    have hother : (∀ u, Entries.get? ms "type" ≠ some (.text u)) →
        ¬(Document.object ms = .object members ∧ members.get? "type" = some (.text t) ∧ t ∈ expected) := by
      rintro h ⟨hms, ht, -⟩
      cases hms
      exact h t ht
    cases hget : Entries.get? ms "type" with
    | none =>
      have := hother (by simp [hget])
      simp only [tagged, hget, refuse, this]
      exact ⟨fun h => (by cases h), False.elim⟩
    | some u =>
      cases u with
      | text u =>
        simp only [tagged, hget, List.contains_iff_mem]
        constructor
        · intro h
          split at h
          · next hmem =>
            cases h
            exact ⟨rfl, hget, hmem⟩
          · cases h
        · rintro ⟨hms, ht, hmem⟩
          cases hms
          rw [hget] at ht
          cases ht
          rw [if_pos hmem]
      | _ =>
        have := hother (by simp [hget])
        simp only [tagged, hget, refuse, this]
        exact ⟨fun h => (by cases h), False.elim⟩
  | _ => simp [tagged, refuse]

/-- A tagged object is read by the reader for its tag. -/
theorem bind_tagged_eq_ok_iff {expected : List Text} {ofMembers : Text → Entries Document → Checked α} :
    (tagged expected v >>= fun (tag, members) => Checked.under (.key tag) (ofMembers tag members)) = .ok a ↔
      ∃ (tag : Text) (members : Entries Document), v = .object members ∧ members.get? "type" = some (.text tag) ∧
        tag ∈ expected ∧ ofMembers tag members = .ok a := by
  simp only [Checked.bind_eq_ok_iff, Checked.under_eq_ok_iff, Prod.exists, tagged_eq_ok_iff]
  constructor
  · rintro ⟨tag, members, ⟨hv, htype, htag⟩, h⟩
    exact ⟨tag, members, hv, htype, htag, h⟩
  · rintro ⟨tag, members, hv, htype, htag, h⟩
    exact ⟨tag, members, ⟨hv, htype, htag⟩, h⟩

/-! ## Bounds -/

theorem integerBetween_eq_ok {low high : Nat} {i : Int} (h : integerBetween low high v = .ok i) :
    low ≤ i ∧ i ≤ high := by
  unfold integerBetween at h
  obtain ⟨j, -, h⟩ := Checked.bind_eq_ok_iff.mp h
  split at h
  · cases h
  · split at h
    · cases h
    · cases h
      constructor <;> omega

theorem integerBetween_integer {low high : Nat} {i : Int} (hl : low ≤ i) (hh : i ≤ high) :
    integerBetween low high (.integer i) = .ok i := by
  refine Checked.bind_eq_ok_iff.mpr ⟨i, rfl, ?_⟩
  rw [if_neg (by omega), if_neg (by omega)]

end Reading

end IndexOptions
