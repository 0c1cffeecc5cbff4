import IndexOptions.Resolve.Basic

/-!
# What can happen

A promise about all events of a computation (`Traced.Each`) is closed under what computations are made of, and so it
holds of the checks, one by one and all together, as soon as it holds of the calls they make. What a promise says of the
directory service (`each_path`) is kept apart from what it says of the builder (`each_schema`), since the directory
service is asked only where no directory is given.
-/

namespace IndexOptions

namespace Traced

variable {α β : Type} {p : Event → Prop}

/-- Every event of the computation satisfies `p`. -/
def Each (p : Event → Prop) (x : Traced α) : Prop := ∀ e ∈ x.events, p e

/-- A plain result has no events. -/
theorem each_of (r : Except ResolveError α) : (Traced.of r).Each p := fun e he => by cases he

theorem each_emit {e : Event} (h : p e) : (emit e).Each p := List.forall_mem_singleton.mpr h

/-- What happens in a sequence happens in its first part or, if that succeeds, in what follows. -/
theorem each_bind {x : Traced α} {f : α → Traced β} (hx : x.Each p) (hf : ∀ a, (f a).Each p) : (x >>= f).Each p := by
  intro e he
  cases h : x.result with
  | error err =>
    rw [bind_of_error h] at he
    exact hx e he
  | ok a =>
    rw [bind_of_ok h] at he
    rcases List.mem_append.mp he with he | he
    · exact hx e he
    · exact hf a e he

end Traced

namespace OptionMap

open Traced

variable {σ : Type} {p : Event → Prop} {builder : Builder σ} {table : Identity Table} {index : Identity Index}
  {naming : Naming}

/-- All that the log of the options does is to log one record for each of them. -/
theorem each_logOptions {message : Text} (h : ∀ key value, p (.logged (optionRecord message key value)))
    (options : OptionMap) : (options.logOptions message).Each p := by
  intro e he
  obtain ⟨⟨key, value⟩, -, rfl⟩ := List.mem_map.mp he
  exact h key value

/-- The log of the options never fails, so what follows always happens behind it. -/
theorem events_logOptions_bind {α : Type} (options : OptionMap) (message : Text) (f : Unit → Traced α) :
    (options.logOptions message >>= f).events = (options.logOptions message).events ++ (f ()).events := by
  rw [bind_of_ok (show (options.logOptions message).result = .ok () from rfl)]

/-- The directory service is asked for the table, if the directory is not given and the index is known. -/
theorem each_path {options : OptionMap}
    (h : ∀ t i, options.raw .directoryPath = none → table = .known t → index = .known i → p (.asked t))
    (naming : Naming) : (options.path table index naming).Each p := by
  unfold path
  split
  · exact each_of _
  · next hraw =>
    split
    · next t i => exact each_bind (each_emit (h t i hraw rfl rfl)) fun _ => each_bind (each_of _) fun _ => each_of _
    · exact each_of _

/-- Of the builder only two things are asked: to build, and to check the table if it is known. -/
theorem each_schema (hbuilt : ∀ raw, p (.built raw)) (hchecked : ∀ t, p (.checked t)) (options : OptionMap)
    (table : Identity Table) (builder : Builder σ) : (options.schema table builder).Each p := by
  unfold schema
  split
  · exact each_of _
  · refine each_bind (each_emit (hbuilt _)) fun _ => each_bind (each_of _) fun s => ?_
    split
    · exact each_of _
    · exact each_bind (each_emit (hchecked _)) fun _ => each_bind (each_of _) fun _ => each_of _

/-- The numbers are read from the options alone; only the path and the schema make calls. -/
theorem each_values {options : OptionMap} (hpath : (options.path table index naming).Each p)
    (hschema : (options.schema table builder).Each p) : (options.values table index naming builder).Each p := by
  unfold values
  iterate 6 refine each_bind (each_of _) fun _ => ?_
  exact each_bind hpath fun _ => each_bind hschema fun _ => each_of _

theorem each_attempts {options : OptionMap} (hpath : (options.path table index naming).Each p)
    (hschema : (options.schema table builder).Each p) :
    ∀ x ∈ options.attempts table index naming builder, x.Each p := by
  intro x hx
  simp only [attempts, List.mem_cons, List.not_mem_nil, or_false] at hx
  rcases hx with rfl | rfl | rfl | rfl | rfl | rfl | rfl | rfl
  iterate 6 exact each_of _
  · exact hpath
  · exact hschema

/-- Collecting goes through the checks in turn, up to one that fails beyond rejection. -/
theorem each_collectFrom {xs : List (Traced Unit)} (h : ∀ x ∈ xs, x.Each p) : (collectFrom xs).Each p := by
  induction xs with
  | nil => exact each_of _
  | cons x xs ih =>
    have hx : x.Each p := h x List.mem_cons_self
    have hxs : (collectFrom xs).Each p := ih fun y hy => h y (List.mem_cons_of_mem _ hy)
    have hboth : ∀ e ∈ x.events ++ (collectFrom xs).events, p e := List.forall_mem_append.mpr ⟨hx, hxs⟩
    unfold collectFrom
    split
    · exact hboth
    · exact hboth
    · exact hx

end OptionMap

end IndexOptions
