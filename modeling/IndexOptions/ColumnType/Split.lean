import IndexOptions.Text.Split

/-!
# Top-level arguments

`splitTopLevel` cuts the arguments of a column type at the commas that stand outside of every pair of angle brackets.
The depth counts opening less closing brackets and may become negative in texts that are no column types. No part of the
text is lost (`join_splitFrom`).
-/

namespace IndexOptions.ColumnType

/-- The depth after a code point. -/
def depthAfter (depth : Int) (c : CodePoint) : Int :=
  if c = '<' then depth + 1 else if c = '>' then depth - 1 else depth

/-- Put a code point before the first piece. -/
def prepend (c : CodePoint) : List Text → List Text
  | [] => [[c]]
  | p :: ps => (c :: p) :: ps

def splitFrom : (depth : Int) → Text → List Text
  | _, [] => [[]]
  | depth, c :: r =>
    if c = ',' && depth = 0 then [] :: splitFrom depth r else prepend c (splitFrom (depthAfter depth c) r)

def splitTopLevel (t : Text) : List Text := splitFrom 0 t

/-- There is always a piece, be it empty. -/
theorem splitFrom_ne_nil (depth : Int) (t : Text) : splitFrom depth t ≠ [] := by
  cases t with
  | nil => simp [splitFrom]
  | cons c r =>
    rw [splitFrom]
    split
    · simp
    · cases splitFrom (depthAfter depth c) r <;> simp [prepend]

theorem join_prepend (sep : Text) (c : CodePoint) (ps : List Text) :
    Text.join sep (prepend c ps) = c :: Text.join sep ps := by
  cases ps with
  | nil => rfl
  | cons p ps => cases ps <;> rfl

/-- The pieces with commas between them are the text again. -/
theorem join_splitFrom (depth : Int) (t : Text) : Text.join [CodePoint.ofChar ','] (splitFrom depth t) = t := by
  induction t generalizing depth with
  | nil => rfl
  | cons c r ih =>
    rw [splitFrom]
    split
    · next h =>
      have hc : c = CodePoint.ofChar ',' := by simp_all
      cases hs : splitFrom depth r with
      | nil => exact absurd hs (splitFrom_ne_nil depth r)
      | cons p ps =>
        have := ih depth
        rw [hs] at this
        simp [Text.join, this, hc]
    · rw [join_prepend, ih]

/-- No piece is longer than the text. -/
theorem length_le_of_mem_splitFrom {depth : Int} {t p : Text} (h : p ∈ splitFrom depth t) : p.length ≤ t.length := by
  induction t generalizing depth p with
  | nil => simp_all [splitFrom]
  | cons c r ih =>
    rw [splitFrom] at h
    split at h
    · rcases List.mem_cons.mp h with rfl | h
      · simp
      · exact Nat.le_succ_of_le (ih h)
    · cases hs : splitFrom (depthAfter depth c) r with
      | nil => simp_all [prepend]
      | cons q qs =>
        rw [hs, prepend] at h
        rcases List.mem_cons.mp h with rfl | h
        · exact Nat.succ_le_succ (ih (hs ▸ List.mem_cons_self))
        · exact Nat.le_succ_of_le (ih (hs ▸ List.mem_cons_of_mem _ h))

end IndexOptions.ColumnType
