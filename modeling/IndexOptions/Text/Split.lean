import IndexOptions.Text.Basic

/-!
# Pieces of a text

`after?` takes a word off the beginning of a text; `splitOn` cuts a text at every occurrence of a separator and keeps
empty pieces; `join` puts a separator between pieces.

- `splitOn` gives pieces without the separator (`not_mem_of_mem_splitOn`) that make the text again (`join_splitOn`);
- it is the only way to do so (`splitOn_join`);
- a separator parts the pieces before it from those behind it (`splitOn_append`).
-/

namespace IndexOptions.Text

variable {sep : CodePoint} {t p : Text}

/-! ## Words at the beginning -/

/-- What follows a word at the beginning of a text. -/
def after? : (word : Text) → Text → Option Text
  | [], t => some t
  | _ :: _, [] => none
  | w :: ws, c :: r => if w = c then after? ws r else none

theorem after?_eq_some_iff {word r : Text} : after? word t = some r ↔ t = word ++ r := by
  induction word generalizing t with
  | nil => simp [after?]
  | cons w ws ih =>
    cases t with
    | nil => simp [after?]
    | cons c u =>
      rw [after?]
      split
      · next h => simp [ih, h]
      · next h => simp [Ne.symm h]

/-! ## Separators -/

/-- The pieces between the separators, empty ones included. -/
def splitOn (sep : CodePoint) : Text → List Text
  | [] => [[]]
  | c :: r =>
    if c = sep then [] :: splitOn sep r
    else
      match splitOn sep r with
      | [] => [[c]]
      | p :: ps => (c :: p) :: ps

/-- The texts with a separator text between neighbours. -/
def join (sep : Text) : List Text → Text
  | [] => []
  | [t] => t
  | t :: u :: r => t ++ sep ++ join sep (u :: r)

theorem splitOn_ne_nil (sep : CodePoint) (t : Text) : splitOn sep t ≠ [] := by
  cases t with
  | nil => simp [splitOn]
  | cons c r =>
    rw [splitOn]
    split
    · simp
    · split <;> simp

theorem join_cons (sep t : Text) {ps : List Text} (h : ps ≠ []) : join sep (t :: ps) = t ++ sep ++ join sep ps := by
  cases ps with
  | nil => exact absurd rfl h
  | cons p ps => rfl

/-- The pieces with the separator between them are the text again. -/
theorem join_splitOn (sep : CodePoint) (t : Text) : join [sep] (splitOn sep t) = t := by
  induction t with
  | nil => rfl
  | cons c r ih =>
    rw [splitOn]
    split
    · next h => rw [join_cons _ _ (splitOn_ne_nil sep r), ih, h]; rfl
    · split
      · next h => exact absurd h (splitOn_ne_nil sep r)
      · next p ps h =>
        rw [h] at ih
        cases ps <;> simpa [join] using ih

/-- No piece holds the separator. -/
theorem not_mem_of_mem_splitOn (h : p ∈ splitOn sep t) : sep ∉ p := by
  induction t generalizing p with
  | nil => simp_all [splitOn]
  | cons c r ih =>
    rw [splitOn] at h
    split at h
    · rcases List.mem_cons.mp h with rfl | h
      · simp
      · exact ih h
    · next hc =>
      split at h
      · next hs => exact absurd hs (splitOn_ne_nil sep r)
      · next q qs hs =>
        rcases List.mem_cons.mp h with rfl | h
        · have := ih (hs ▸ List.mem_cons_self)
          simp [this, Ne.symm hc]
        · exact ih (hs ▸ List.mem_cons_of_mem _ h)

theorem splitOn_of_not_mem (h : sep ∉ t) : splitOn sep t = [t] := by
  induction t with
  | nil => rfl
  | cons c r ih =>
    simp only [List.mem_cons, not_or] at h
    simp [splitOn, ih h.2, Ne.symm h.1]

/-- A separator parts the pieces before it from those behind it. -/
theorem splitOn_append (t r : Text) : splitOn sep (t ++ sep :: r) = splitOn sep t ++ splitOn sep r := by
  induction t with
  | nil => simp [splitOn]
  | cons c t ih =>
    rw [List.cons_append, splitOn, splitOn, ih]
    split
    · rfl
    · cases hs : splitOn sep t with
      | nil => exact absurd hs (splitOn_ne_nil sep t)
      | cons p ps => rfl

theorem splitOn_append_sep (t : Text) (h : sep ∉ p) : splitOn sep (p ++ [sep] ++ t) = p :: splitOn sep t := by
  rw [List.append_assoc, List.singleton_append, splitOn_append, splitOn_of_not_mem h, List.singleton_append]

/-- There is one piece more than separators. -/
theorem length_splitOn (sep : CodePoint) (t : Text) : (splitOn sep t).length = t.count sep + 1 := by
  induction t with
  | nil => rfl
  | cons c t ih =>
    rw [splitOn]
    split
    · next h => rw [List.length_cons, ih, h, List.count_cons_self]
    · next h =>
      rw [List.count_cons_of_ne h, ← ih]
      split
      · next hs => exact absurd hs (splitOn_ne_nil sep t)
      · next hs => rw [hs, List.length_cons, List.length_cons]

/-- Pieces without the separator are found again. -/
theorem splitOn_join {ps : List Text} (hne : ps ≠ []) (h : ∀ p ∈ ps, sep ∉ p) : splitOn sep (join [sep] ps) = ps := by
  induction ps with
  | nil => exact absurd rfl hne
  | cons p ps ih =>
    cases ps with
    | nil => exact splitOn_of_not_mem (h p (by simp))
    | cons q qs =>
      rw [join_cons _ _ (by simp), splitOn_append_sep _ (h p (by simp)), ih (by simp) fun x hx => h x (by simp_all)]

end IndexOptions.Text
