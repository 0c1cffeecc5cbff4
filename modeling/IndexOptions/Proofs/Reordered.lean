import IndexOptions.Proofs.Reading
import Mathlib.Data.List.Forall2

/-!
# Documents in which members stand in another order

Two documents may differ only by the order of the members of their objects (`Document.Reordered`). What a reader makes
of the one it then makes of the other, exactly or up to a relation between the values (`Reading.Respects`), and likewise
for what is made of the members of an object (`Reading.Stable`).

Each way to put readers together keeps this: fields and tags are found by their names wherever they stand
(`stable_requiredField`, `stable_optionalField`, `respects_tagged`), a check of all names sees the same names
(`stable_of_names`), and values that are found side by side are related one by one (`stable_and`, `stable_map`). Only
successes are followed; that failures correspond too is seen by going the other way (`Document.Reordered.symm`).
-/

namespace IndexOptions

namespace Entries

variable {α : Type} {es fs : Entries α} {name : Text} {a : α}

/-- Where names are distinct, a name stands for the value that is given with it. -/
theorem get?_eq_some_iff (h : es.keys.Nodup) : es.get? name = some a ↔ (name, a) ∈ es := by
  induction es with
  | nil => simp [get?]
  | cons e es ih =>
    obtain ⟨k, b⟩ := e
    obtain ⟨hk, hes⟩ := List.nodup_cons.mp h
    rw [get?_cons, List.mem_cons, Prod.mk.injEq]
    by_cases hname : name = k
    · have hnot : (k, a) ∉ es := fun ha => hk (List.mem_map.mpr ⟨_, ha, rfl⟩)
      simp [hname, hnot, eq_comm]
    · simp [hname, ih hes]

theorem get?_eq_none_iff : es.get? name = none ↔ name ∉ es.keys := by
  rw [← has_iff, has, Option.not_isSome_iff_eq_none]

/-- The same entries in another order. -/
structure Rearranged (es fs : Entries α) : Prop where
  distinct : es.keys.Nodup
  perm : es.Perm fs

/-- Rearranged entries are equivalent. -/
theorem equivBy_of_rearranged [DecidableEq α] (h : es.Rearranged fs) : es.equivBy (fun a b => a = b) fs := by
  have hget : ∀ e ∈ es, fs.get? e.1 = some e.2 := by
    intro e he
    rw [← get?_of_perm h.perm h.distinct, get?_eq_some_iff h.distinct]
    exact he
  unfold equivBy
  rw [Bool.and_eq_true, beq_iff_eq, List.all_eq_true]
  refine ⟨h.perm.length_eq, fun e he => ?_⟩
  rw [hget e he]
  exact decide_eq_true rfl

end Entries

namespace Document

/-- Documents that differ only by the order of the members of their objects. Members have distinct names, and the values
under a name may differ in the same way. -/
inductive Reordered : Document → Document → Prop
  | null : Reordered .null .null
  | bool (value : Bool) : Reordered (.bool value) (.bool value)
  | integer (value : Int) : Reordered (.integer value) (.integer value)
  | real (value : Double) : Reordered (.real value) (.real value)
  | text (value : Text) : Reordered (.text value) (.text value)
  | array {vs ws : List Document} (hlength : vs.length = ws.length)
    (hitems : ∀ (i : Nat) (v w : Document), vs[i]? = some v → ws[i]? = some w → Reordered v w) :
    Reordered (.array vs) (.array ws)
  | object {ms ns : Entries Document} (hdistinct : ms.keys.Nodup) (hkeys : ms.keys.Perm ns.keys)
    (hmembers : ∀ (name : Text) (v w : Document), ms.get? name = some v → ns.get? name = some w → Reordered v w) :
    Reordered (.object ms) (.object ns)

namespace Reordered

variable {v w : Document} {ms ns : Entries Document} {name : Text}

/-- The relation goes both ways, by induction on the documents. -/
theorem symm (h : Reordered v w) : Reordered w v := by
  induction h with
  | null => exact .null
  | bool b => exact .bool b
  | integer i => exact .integer i
  | real x => exact .real x
  | text t => exact .text t
  | array hlength _ ih => exact .array hlength.symm fun i v w hv hw => ih i w v hw hv
  | object hdistinct hkeys _ ih =>
    exact .object (hkeys.nodup_iff.mp hdistinct) hkeys.symm fun name v w hv hw => ih name w v hw hv

theorem distinct (h : Reordered (.object ms) (.object ns)) : ms.keys.Nodup := by
  cases h with
  | object hdistinct _ _ => exact hdistinct

theorem perm_keys (h : Reordered (.object ms) (.object ns)) : ms.keys.Perm ns.keys := by
  cases h with
  | object _ hkeys _ => exact hkeys

theorem get?_eq_none (h : Reordered (.object ms) (.object ns)) (hv : ms.get? name = none) : ns.get? name = none := by
  rw [Entries.get?_eq_none_iff] at hv ⊢
  exact fun hname => hv (h.perm_keys.mem_iff.mpr hname)

/-- What stands under a name in the one object stands there in the other, up to the order inside of it. -/
theorem exists_get? (h : Reordered (.object ms) (.object ns)) (hv : ms.get? name = some v) :
    ∃ w, ns.get? name = some w ∧ Reordered v w := by
  cases hw : ns.get? name with
  | none =>
    rw [h.symm.get?_eq_none hw] at hv
    cases hv
  | some w =>
    cases h with
    | object _ _ hmembers => exact ⟨w, rfl, hmembers name v w hv hw⟩

/-- A name stands in both objects or in none. -/
theorem exists_of_mem (h : Reordered (.object ms) (.object ns)) {e : Text × Document} (he : e ∈ ns) :
    ∃ f ∈ ms, f.1 = e.1 :=
  List.mem_map.mp (h.perm_keys.mem_iff.mpr (List.mem_map_of_mem he))

end Reordered

section Members

variable {ms ms' ns : Entries Document}

theorem keys_of_forall₂ (h : List.Forall₂ (fun e f => e.1 = f.1 ∧ Reordered e.2 f.2) ms ms') : ms.keys = ms'.keys := by
  induction h with
  | nil => rfl
  | cons hef _ ih => exact List.cons_eq_cons.mpr ⟨hef.1, ih⟩

theorem reordered_of_get? (h : List.Forall₂ (fun e f => e.1 = f.1 ∧ Reordered e.2 f.2) ms ms') {name : Text}
    {v w : Document} (hv : ms.get? name = some v) (hw : ms'.get? name = some w) : Reordered v w := by
  induction h with
  | nil => cases hv
  | cons hef _ ih =>
    rw [Entries.get?_cons] at hv hw
    rw [← hef.1] at hw
    split at hv
    · next hname =>
      rw [if_pos hname] at hw
      cases hv
      cases hw
      exact hef.2
    · next hname =>
      rw [if_neg hname] at hw
      exact ih hv hw

/-- Two objects differ only by the order of members if they do so member by member, after the members are put in the
same order. -/
theorem reordered_of_forall₂ (hdistinct : ms.keys.Nodup)
    (h : List.Forall₂ (fun e f => e.1 = f.1 ∧ Reordered e.2 f.2) ms ms') (hperm : ms'.Perm ns) :
    Reordered (.object ms) (.object ns) := by
  have hkeys := keys_of_forall₂ h
  refine .object hdistinct ?_ fun name v w hv hw => ?_
  · rw [hkeys]
    exact hperm.map _
  · rw [← Entries.get?_of_perm hperm (hkeys ▸ hdistinct)] at hw
    exact reordered_of_get? h hv hw

end Members

end Document

/-! ## Readers -/

namespace Reading

open Document

variable {α β : Type} {R : α → α → Prop} {S : β → β → Prop} {read : Document → Checked α}
  {x : Entries Document → Checked α} {y : Entries Document → Checked β}

/-- A document in which members stand in another order is read too, as something related. -/
def Respects (R : α → α → Prop) (read : Document → Checked α) : Prop :=
  ∀ v w a, Reordered v w → read v = .ok a → ∃ b, read w = .ok b ∧ R a b

/-- The members of an object in another order are read too, as something related. -/
def Stable (R : α → α → Prop) (x : Entries Document → Checked α) : Prop :=
  ∀ ms ns a, Reordered (.object ms) (.object ns) → x ms = .ok a → ∃ b, x ns = .ok b ∧ R a b

/-- A reader that reads neither arrays nor objects has no members to look at. -/
theorem respects_scalar (harray : ∀ vs a, read (.array vs) ≠ .ok a) (hobject : ∀ ms a, read (.object ms) ≠ .ok a) :
    Respects Eq read := by
  intro v w a h hv
  cases h with
  | array _ _ => exact absurd hv (harray _ a)
  | object _ _ _ => exact absurd hv (hobject _ a)
  | _ => exact ⟨a, hv, rfl⟩

theorem respects_name : Respects Eq name := respects_scalar nofun nofun

theorem respects_flag : Respects Eq flag := respects_scalar nofun nofun

theorem respects_integerBetween (low high : Nat) : Respects Eq (integerBetween low high) :=
  respects_scalar nofun nofun

theorem respects_nullableName : Respects Eq (nullable name) := respects_scalar nofun nofun

theorem respects_nullableText : Respects Eq (nullable text) := respects_scalar nofun nofun

/-! ### Members -/

theorem stable_requiredField (field : Text) (h : Respects R read) :
    Stable R fun ms => requiredField ms field read := by
  intro ms ns a hms ha
  obtain ⟨v, hget, hv⟩ := requiredField_eq_ok_iff.mp ha
  obtain ⟨w, hw, hvw⟩ := hms.exists_get? hget
  obtain ⟨b, hb, hab⟩ := h v w a hvw hv
  exact ⟨b, requiredField_eq_ok_iff.mpr ⟨w, hw, hb⟩, hab⟩

theorem stable_optionalField (field : Text) {default : α} (hdefault : R default default) (h : Respects R read) :
    Stable R fun ms => optionalField ms field default read := by
  intro ms ns a hms ha
  rcases optionalField_eq_ok_iff.mp ha with ⟨hget, rfl⟩ | ⟨v, hget, hv⟩
  · exact ⟨_, optionalField_eq_ok_iff.mpr (.inl ⟨hms.get?_eq_none hget, rfl⟩), hdefault⟩
  · obtain ⟨w, hw, hvw⟩ := hms.exists_get? hget
    obtain ⟨b, hb, hab⟩ := h v w a hvw hv
    exact ⟨b, optionalField_eq_ok_iff.mpr (.inr ⟨w, hw, hb⟩), hab⟩

/-- A check of all names sees the same names. -/
theorem stable_of_names {check : Entries Document → Checked Unit} {p : Text → Prop}
    (h : ∀ {ms u}, check ms = .ok u ↔ ∀ e ∈ ms, p e.1) : Stable Eq check := by
  intro ms ns u hms hu
  refine ⟨u, h.mpr fun e he => ?_, rfl⟩
  obtain ⟨f, hf, hname⟩ := hms.exists_of_mem he
  rw [← hname]
  exact h.mp hu f hf

theorem stable_closed (declared : List Text) : Stable Eq (closed declared) := stable_of_names closed_eq_ok_iff

theorem stable_encodableNames : Stable Eq encodableNames :=
  stable_of_names (p := fun name => name.isEncodable) encodableNames_eq_ok_iff

/-- Two readers side by side are stable if each of them is. -/
theorem stable_and (hx : Stable R x) (hy : Stable S y) :
    Stable (fun p q => R p.1 q.1 ∧ S p.2 q.2) fun ms => (x ms).and (y ms) := by
  rintro ms ns ⟨a, c⟩ hms h
  obtain ⟨ha, hc⟩ := Checked.and_eq_ok_iff.mp h
  obtain ⟨b, hb, hab⟩ := hx ms ns a hms ha
  obtain ⟨d, hd, hcd⟩ := hy ms ns c hms hc
  exact ⟨(b, d), Checked.and_eq_ok_iff.mpr ⟨hb, hd⟩, hab, hcd⟩

theorem stable_map {f : α → β} (hx : Stable R x) (hf : ∀ a b, R a b → S (f a) (f b)) :
    Stable S fun ms => (x ms).map f := by
  intro ms ns c hms h
  obtain ⟨a, ha, rfl⟩ := Checked.map_eq_ok_iff.mp h
  obtain ⟨b, hb, hab⟩ := hx ms ns a hms ha
  exact ⟨f b, Checked.map_eq_ok_iff.mpr ⟨b, hb, rfl⟩, hf a b hab⟩

/-- Names without UTF-8 form are looked for in all members. -/
theorem stable_encodableNames_bind (hx : Stable R x) : Stable R fun ms => encodableNames ms >>= fun _ => x ms := by
  intro ms ns a hms h
  obtain ⟨u, hu, ha⟩ := Checked.bind_eq_ok_iff.mp h
  obtain ⟨_, hu', -⟩ := stable_encodableNames ms ns u hms hu
  obtain ⟨b, hb, hab⟩ := hx ms ns a hms ha
  exact ⟨b, Checked.bind_eq_ok_iff.mpr ⟨_, hu', hb⟩, hab⟩

/-- A tag is found wherever it stands. -/
theorem respects_tagged {expected : List Text} {ofMembers : Text → Entries Document → Checked α}
    (h : ∀ tag, Stable R (ofMembers tag)) :
    Respects R fun v => tagged expected v >>= fun (tag, ms) => Checked.under (.key tag) (ofMembers tag ms) := by
  intro v w a hvw ha
  obtain ⟨tag, ms, rfl, htype, htag, ha⟩ := bind_tagged_eq_ok_iff.mp ha
  cases w with
  | object ns =>
    obtain ⟨_, hget, htext⟩ := hvw.exists_get? htype
    cases htext
    obtain ⟨b, hb, hab⟩ := h tag ms ns a hvw ha
    exact ⟨b, bind_tagged_eq_ok_iff.mpr ⟨tag, ns, rfl, hget, htag, hb⟩, hab⟩
  | _ => cases hvw

end Reading

end IndexOptions
