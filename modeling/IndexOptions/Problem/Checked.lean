import IndexOptions.Problem.Basic

/-!
# Values that are checked

The outcome of a check is a value or the list of all problems that were found. Two checks side by side (`Checked.and`,
`Checked.all`) report the problems of both (`problems_and`, `problems_all`); one after the other (`bind`), the first
failure ends the check.
-/

namespace IndexOptions

abbrev Checked (α : Type) := Except (List Problem) α

namespace Checked

variable {α β : Type}

/-- A single problem with the value itself. -/
def refuse (cause : Cause) (input : Document) : Checked α := .error [⟨cause, [], input⟩]

/-- Both values, or the problems of both checks. -/
def and : Checked α → Checked β → Checked (α × β)
  | .ok a, .ok b => .ok (a, b)
  | .ok _, .error q => .error q
  | .error p, .ok _ => .error p
  | .error p, .error q => .error (p ++ q)

/-- The values of all checks, or the problems of all. -/
def all : List (Checked α) → Checked (List α)
  | [] => .ok []
  | x :: xs => (x.and (all xs)).map fun (a, as) => a :: as

/-- A check of what a step leads to. -/
def under (step : Step) (x : Checked α) : Checked α := x.mapError (List.map (Problem.under step))

def problems : Checked α → List Problem
  | .ok _ => []
  | .error ps => ps

/-! ## Laws -/

variable {x : Checked α} {y : Checked β} {a : α} {b : β}

theorem and_eq_ok_iff : x.and y = .ok (a, b) ↔ x = .ok a ∧ y = .ok b := by
  cases x <;> cases y <;> simp [Checked.and]

theorem problems_and (x : Checked α) (y : Checked β) : (x.and y).problems = x.problems ++ y.problems := by
  cases x <;> cases y <;> simp [Checked.and, problems]

theorem problems_map (f : α → β) (x : Checked α) : problems (x.map f) = x.problems := by
  cases x <;> rfl

theorem all_eq_ok_iff {xs : List (Checked α)} {as : List α} : all xs = .ok as ↔ xs = as.map .ok := by
  induction xs generalizing as with
  | nil => cases as <;> simp [all]
  | cons x xs ih =>
    cases as with
    | nil => cases x <;> cases h : all xs <;> simp [all, Checked.and, h, Except.map]
    | cons a as =>
      have := @ih as
      cases x <;> cases h : all xs <;> simp_all [all, Checked.and, Except.map]

/-- All problems are reported, in order. -/
theorem problems_all (xs : List (Checked α)) : (all xs).problems = xs.flatMap problems := by
  induction xs with
  | nil => rfl
  | cons x xs ih => rw [all, problems_map, problems_and, ih, List.flatMap_cons]

theorem under_eq_ok_iff {step : Step} : x.under step = .ok a ↔ x = .ok a := by
  cases x with
  | ok b => exact Iff.rfl
  | error ps => exact ⟨fun h => (by cases h), fun h => (by cases h)⟩

theorem problems_under (step : Step) (x : Checked α) :
    (x.under step).problems = x.problems.map (Problem.under step) := by
  cases x <;> rfl

end Checked

end IndexOptions
