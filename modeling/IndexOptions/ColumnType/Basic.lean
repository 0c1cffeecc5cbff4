import IndexOptions.ColumnType.Split
import IndexOptions.Text.Basic
import IndexOptions.Text.Case

/-!
# Column types

The text of a column type is a name, or a name with arguments in angle brackets. A field is fed from the elements of a
column: frozen types, lists and sets are as good as their argument, and a map as its values (`element?`).
`base` strips these layers off, after blanks and capitals are normalised.
-/

namespace IndexOptions.ColumnType

/-- The names of the types that stand for their one argument. -/
def wrappers : List Text := ["frozen<", "list<", "set<"]

/-- The text without its last code point, if that is a closing bracket. -/
def closed? (t : Text) : Option Text :=
  if t.getLast? = some (CodePoint.ofChar '>') then some t.dropLast else none

/-- A closed text is its body and a closing bracket. -/
theorem closed?_eq_some_iff {t body : Text} : closed? t = some body ↔ t = body ++ [CodePoint.ofChar '>'] := by
  unfold closed?
  constructor
  · intro h
    split at h
    · next hl =>
      obtain ⟨r, rfl⟩ := List.getLast?_eq_some_iff.mp hl
      rw [← Option.some.inj h, List.dropLast_concat]
    · cases h
  · rintro rfl
    simp

/-- The type of the elements, for a type that stands for another one. -/
def element? (t : Text) : Option Text :=
  (closed? t).bind fun body =>
    match wrappers.findSome? fun word => Text.after? word body with
    | some argument => some argument
    | none => (Text.after? "map<" body).bind fun arguments => (splitTopLevel arguments).getLast?

theorem length_lt_of_element? {t u : Text} (h : element? t = some u) : u.length < t.length := by
  obtain ⟨body, hb, h⟩ := Option.bind_eq_some_iff.mp h
  have hl : t.length = body.length + 1 := by simp [closed?_eq_some_iff.mp hb]
  suffices u.length ≤ body.length by omega
  split at h
  · next argument hw =>
    obtain ⟨word, _, ha⟩ := List.exists_of_findSome?_eq_some hw
    rw [← Option.some.inj h, Text.after?_eq_some_iff.mp ha, List.length_append]
    omega
  · obtain ⟨arguments, ha, hu⟩ := Option.bind_eq_some_iff.mp h
    have := length_le_of_mem_splitFrom (List.mem_of_getLast? hu)
    rw [Text.after?_eq_some_iff.mp ha, List.length_append]
    omega

/-- Go down to the elements until a type stands for itself. Each step shortens the text, so its length is fuel
enough (`element?_reduce`). -/
def reduceFrom : (fuel : Nat) → Text → Text
  | 0, t => t
  | fuel + 1, t =>
    match element? t with
    | some u => reduceFrom fuel u
    | none => t

def reduce (t : Text) : Text := reduceFrom t.length t

theorem element?_reduceFrom {fuel : Nat} {t : Text} (h : t.length ≤ fuel) : element? (reduceFrom fuel t) = none := by
  induction fuel generalizing t with
  | zero =>
    have : t = [] := List.eq_nil_of_length_eq_zero (by omega)
    rw [reduceFrom, this]
    rfl
  | succ fuel ih =>
    rw [reduceFrom]
    split
    · next u hu => exact ih (by have := length_lt_of_element? hu; omega)
    · next hu => exact hu

/-- What is left stands for itself. -/
theorem element?_reduce (t : Text) : element? (reduce t) = none := element?_reduceFrom (Nat.le_refl _)

/-- Without blanks and in lower case. -/
def normal (t : Text) : Text := t.withoutBlanks.lower

/-- The type of the values that a column of the given type holds in the end. -/
def base (t : Text) : Text := reduce (normal t)

end IndexOptions.ColumnType
