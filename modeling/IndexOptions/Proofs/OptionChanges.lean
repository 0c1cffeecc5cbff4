import IndexOptions.Proofs.Interference

/-!
# Changing one option

An option is given another text, or is left out (`OptionMap.change`). The other options keep theirs (`raw_change`), so
their checks fail as they did (`fault?_of_raw`): a list of rejections changes in those of the changed option only
(`collectErrors_change`).

This needs a list from both maps. An overlong integer ends the collection, whatever the other options are.
-/

namespace IndexOptions.OptionMap

variable {σ : Type} {options options' : OptionMap} {builder : Builder σ} {table : Identity Table} {o k : OptionName}

/-! ## The change -/

/-- The options with another text for one of them, or without it. -/
def change (options : OptionMap) (k : OptionName) : Option Text → OptionMap
  | some raw => Entries.put options k.text raw
  | none => Entries.erase options k.text

theorem raw_change (options : OptionMap) (k : OptionName) (new : Option Text) (o : OptionName) :
    (options.change k new).raw o = if o = k then new else options.raw o := by
  have htext : o.text = k.text ↔ o = k := ⟨OptionName.text_injective, congrArg _⟩
  cases new with
  | some raw =>
    show Entries.get? (Entries.put options k.text raw) o.text = _
    simp only [Entries.get?_put, htext]
    rfl
  | none =>
    show Entries.get? (Entries.erase options k.text) o.text = _
    simp only [Entries.get?_erase, htext]
    rfl

/-! ## Checks by themselves -/

/-- An option with the same text fails the same way, whatever the other options are. -/
theorem fault?_of_raw (h : options.raw o = options'.raw o) :
    options.fault? table builder o = options'.fault? table builder o := by
  have hpath : o = .directoryPath → options.path table .unknown noNaming = options'.path table .unknown noNaming := by
    rintro rfl
    exact path_unknown_of_raw h
  rw [fault?, fault?, check_of_raw h hpath]

/-! ## All rejections -/

/-- The rejections of the options that pass a test are the errors of their checks, in order. -/
theorem filterMap_fault?_of_faults {os : List OptionName} {rs : List Rejection} (keep : OptionName → Bool)
    (h : os.filterMap (options.fault? table builder) = rs.map .rejected) :
    (os.filter keep).filterMap (options.fault? table builder) =
      (rs.filter fun r => keep r.option).map .rejected := by
  induction os generalizing rs with
  | nil =>
    have hrs : rs = [] := by simpa using h.symm
    subst hrs
    rfl
  | cons o os ih =>
    cases hf : options.fault? table builder o with
    | none =>
      rw [List.filterMap_cons_none hf] at h
      rw [← ih h]
      cases hk : keep o with
      | true => rw [List.filter_cons_of_pos hk, List.filterMap_cons_none hf]
      | false => rw [List.filter_cons_of_neg (by simp [hk])]
    | some e =>
      rw [List.filterMap_cons_some hf] at h
      cases rs with
      | nil => cases h
      | cons r rs =>
        rw [List.map_cons, List.cons.injEq] at h
        obtain ⟨rfl, h⟩ := h
        have hr : r.option = o := option_of_fault? hf
        cases hk : keep o with
        | true =>
          rw [List.filter_cons_of_pos hk, List.filterMap_cons_some hf, List.filter_cons_of_pos (by rw [hr, hk]),
            List.map_cons, ih h]
        | false => rw [List.filter_cons_of_neg (by simp [hk]), List.filter_cons_of_neg (by simp [hr, hk]), ih h]

/-- Options that are the same in both maps are rejected in the same way and order. -/
theorem filter_collectErrors_of_raw {table : Given Table} {rs rs' : List Rejection} (keep : OptionName → Bool)
    (hraw : ∀ o, keep o → options.raw o = options'.raw o)
    (h : (options.collectErrors table builder).result = .ok rs)
    (h' : (options'.collectErrors table builder).result = .ok rs') :
    (rs.filter fun r => keep r.option) = rs'.filter fun r => keep r.option := by
  rw [collectErrors_eq_ok_iff] at h h'
  have hfaults : (OptionName.all.filter keep).filterMap (options.fault? table.identity builder) =
      (OptionName.all.filter keep).filterMap (options'.fault? table.identity builder) := by
    refine List.filterMap_congr ?_
    intro o ho
    exact fault?_of_raw (hraw o (List.mem_filter.mp ho).2)
  rw [filterMap_fault?_of_faults keep h, filterMap_fault?_of_faults keep h'] at hfaults
  have hinj : Function.Injective ResolveError.rejected := fun r s hrs => ResolveError.rejected.inj hrs
  exact List.map_injective_iff.mpr hinj hfaults

/-- **A change of one option does not touch the rejections of the others.** If all rejections can be told before and
after an option is given another text, or is left out, then those of all other options are the same, in the same
order. -/
theorem collectErrors_change {table : Given Table} {rs rs' : List Rejection} {new : Option Text}
    (h : (options.collectErrors table builder).result = .ok rs)
    (h' : ((options.change k new).collectErrors table builder).result = .ok rs') :
    (rs.filter fun r => r.option ≠ k) = rs'.filter fun r => r.option ≠ k := by
  refine filter_collectErrors_of_raw (fun o => o ≠ k) ?_ h h'
  intro o ho
  rw [raw_change, if_neg (of_decide_eq_true ho)]

/-- With a good text for the first of three rejected options, the other two stay rejected. -/
theorem collectErrors_change_threeRejected :
    (threeRejected.collectErrors .unknown schemaBuilder).result =
        .ok [⟨.ramBufferMb, .notPositiveInteger⟩, ⟨.maxMergeMb, .notPositive⟩, ⟨.schema, .required⟩] ∧
      ∃ rs, ((threeRejected.change .ramBufferMb (some "128")).collectErrors .unknown schemaBuilder).result = .ok rs ∧
        (rs.filter fun r => r.option ≠ .ramBufferMb) = [⟨.maxMergeMb, .notPositive⟩, ⟨.schema, .required⟩] := by
  have h : (threeRejected.collectErrors .unknown schemaBuilder).result =
      .ok [⟨.ramBufferMb, .notPositiveInteger⟩, ⟨.maxMergeMb, .notPositive⟩, ⟨.schema, .required⟩] := rfl
  obtain ⟨rs, hrs⟩ : ∃ rs, ((threeRejected.change .ramBufferMb (some "128")).collectErrors .unknown
      schemaBuilder).result = .ok rs :=
    exists_of_isOk (by decide +kernel)
  exact ⟨h, rs, hrs, (collectErrors_change h hrs).symm⟩

end IndexOptions.OptionMap
