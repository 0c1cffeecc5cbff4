import IndexOptions.Resolve.Basic

/-!
# Runs over a list of checks

A check is a computation that is run for its failure only. A list of checks is run in two ways: `Traced.runAll` stops
at the first failure, and `OptionMap.collectFrom` goes on after a rejection. What comes out of either is read off the
list of all failures, in order (`Traced.failures`):

- `runAll` fails with the first of them (`result_runAll`);
- `collectFrom` gives a list exactly if all of them are rejections, and these are the list
  (`collectFrom_eq_ok_iff`); otherwise it fails with one that is not a rejection (`mem_failures_of_collectFrom`).
-/

namespace IndexOptions

/-! ## Results -/

section Result

variable {ε α : Type} {x : Except ε α} {a : α}

/-- A result that is told to be a value is one. -/
theorem exists_of_isOk (h : x.isOk) : ∃ a, x = .ok a := by
  cases x with
  | ok a => exact ⟨a, rfl⟩
  | error e => cases h

theorem toOption_eq_some_iff : x.toOption = some a ↔ x = .ok a := by
  cases x <;> simp [Except.toOption]

end Result

namespace Traced

variable {α β : Type}

/-! ## Failures -/

/-- The error of a computation without a value. -/
def failure? (x : Traced α) : Option ResolveError :=
  match x.result with
  | .ok _ => none
  | .error e => some e

theorem failure?_eq_some_iff {x : Traced α} {e : ResolveError} : x.failure? = some e ↔ x.result = .error e := by
  unfold failure?
  cases x.result <;> simp

theorem failure?_eq_none_iff {x : Traced α} : x.failure? = none ↔ ∃ a, x.result = .ok a := by
  unfold failure?
  cases x.result <;> simp

/-- The errors of all checks that fail, in order. -/
def failures (xs : List (Traced Unit)) : List ResolveError := xs.filterMap failure?

/-- The failures of checks stand in the order of the checks. -/
theorem failures_cons (x : Traced Unit) (xs : List (Traced Unit)) :
    failures (x :: xs) = x.failure?.toList ++ failures xs := by
  unfold failures
  cases h : x.failure? <;> simp [h]

/-! ## Steps in sequence -/

/-- A sequence succeeds if its parts do. -/
theorem bind_eq_ok_iff {x : Traced α} {f : α → Traced β} {b : β} :
    (x >>= f).result = .ok b ↔ ∃ a, x.result = .ok a ∧ (f a).result = .ok b := by
  rw [result_bind]
  cases x.result <;> simp [bind, Except.bind]

/-- A sequence fails in its first part, or in what follows the success of it. -/
theorem bind_eq_error_iff {x : Traced α} {f : α → Traced β} {e : ResolveError} :
    (x >>= f).result = .error e ↔ x.result = .error e ∨ ∃ a, x.result = .ok a ∧ (f a).result = .error e := by
  rw [result_bind]
  cases x.result <;> simp [bind, Except.bind]

/-! ## Discarded values -/

@[simp] theorem failure?_discard (x : Traced α) : x.discard.failure? = x.failure? := by
  unfold failure? discard
  cases x.result <;> rfl

theorem discard_pure (a : α) : (pure a : Traced α).discard = pure () := rfl

/-- Only the last result of a sequence can be discarded. -/
theorem discard_bind (x : Traced α) (f : α → Traced β) : (x >>= f).discard = x >>= fun a => (f a).discard := by
  cases h : x.result with
  | ok a => rw [bind_of_ok h, bind_of_ok h]; rfl
  | error e => rw [bind_of_error h, bind_of_error h]; rfl

/-- A result that is not used later may be discarded. -/
theorem discard_bind_const (x : Traced α) (y : Traced β) : (x.discard >>= fun _ => y) = x >>= fun _ => y := by
  cases h : x.result with
  | ok a =>
    have hd : x.discard.result = .ok () := by simp [discard, h, Except.map]
    rw [bind_of_ok h, bind_of_ok hd]; rfl
  | error e =>
    have hd : x.discard.result = .error e := by simp [discard, h, Except.map]
    rw [bind_of_error h, bind_of_error hd]; rfl

/-! ## Up to the first failure -/

/-- Run checks one after the other and stop at the first that fails. -/
def runAll : List (Traced Unit) → Traced Unit
  | [] => pure ()
  | x :: xs => do
    x
    runAll xs

/-- A run fails with the first failure among the checks. -/
theorem result_runAll (xs : List (Traced Unit)) :
    (runAll xs).result = match (failures xs).head? with
      | some e => .error e
      | none => .ok () := by
  induction xs with
  | nil => rfl
  | cons x xs ih =>
    rw [runAll, result_bind, failures_cons]
    cases h : x.result with
    | ok a =>
      have hx : x.failure? = none := failure?_eq_none_iff.mpr ⟨a, h⟩
      rw [hx]
      exact ih
    | error e => rw [failure?_eq_some_iff.mpr h]; rfl

/-- A run succeeds if no check fails. -/
theorem runAll_eq_ok_iff {xs : List (Traced Unit)} : (runAll xs).result = .ok () ↔ failures xs = [] := by
  rw [result_runAll]
  cases failures xs <;> simp

theorem runAll_eq_error_iff {xs : List (Traced Unit)} {e : ResolveError} :
    (runAll xs).result = .error e ↔ (failures xs).head? = some e := by
  rw [result_runAll]
  cases failures xs <;> simp

end Traced

namespace OptionMap

open Traced

/-! ## Past rejections -/

/-- Collecting gives a list exactly if every failure is a rejection, and none of them is dropped. -/
theorem collectFrom_eq_ok_iff {xs : List (Traced Unit)} {rs : List Rejection} :
    (collectFrom xs).result = .ok rs ↔ failures xs = rs.map .rejected := by
  induction xs generalizing rs with
  | nil => cases rs <;> simp [collectFrom, failures, pure, Traced.of]
  | cons x xs ih =>
    rw [failures_cons, collectFrom]
    cases h : x.result with
    | ok a =>
      rw [failure?_eq_none_iff.mpr ⟨a, h⟩]
      exact ih
    | error e =>
      rw [failure?_eq_some_iff.mpr h]
      cases e with
      | rejected r =>
        show (collectFrom xs).result.map (r :: ·) = .ok rs ↔ .rejected r :: failures xs = rs.map .rejected
        cases rs with
        | nil => cases (collectFrom xs).result <;> simp [Except.map]
        | cons r' rs =>
          rw [List.map_cons, List.cons.injEq, ResolveError.rejected.injEq, ← ih]
          cases (collectFrom xs).result <;> simp [Except.map]
      | tooManyDigits _ | unknownIdentity | settings _ | config _ => cases rs <;> simp

/-- What ends a collection is the error of a check and no rejection. -/
theorem mem_failures_of_collectFrom {xs : List (Traced Unit)} {e : ResolveError}
    (h : (collectFrom xs).result = .error e) : e ∈ failures xs ∧ ∀ r, e ≠ .rejected r := by
  induction xs with
  | nil => cases h
  | cons x xs ih =>
    rw [collectFrom] at h
    rw [failures_cons]
    cases hx : x.result with
    | ok a =>
      rw [hx] at h
      obtain ⟨hm, hr⟩ := ih h
      exact ⟨List.mem_append_right _ hm, hr⟩
    | error e' =>
      rw [hx] at h
      cases e' with
      | rejected r =>
        have hs : (collectFrom xs).result = .error e := by
          cases hs : (collectFrom xs).result with
          | ok rs => rw [hs] at h; cases h
          | error e' => rw [hs] at h; exact h
        obtain ⟨hm, hr⟩ := ih hs
        exact ⟨List.mem_append_right _ hm, hr⟩
      | tooManyDigits _ | unknownIdentity | settings _ | config _ =>
        cases h
        exact ⟨by simp [failure?_eq_some_iff.mpr hx], fun r hr => by cases hr⟩

end OptionMap

end IndexOptions
