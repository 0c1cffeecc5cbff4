import IndexOptions.Text.Basic

/-!
# Entries

Named values in the order in which their names were first given. Writing a value under a name that is there keeps the
place of the name (`put`), so a list built by `put` has each name once (`ofList`).

- `get?_put` and `get?_erase`: only the value of the one name changes;
- `get?_of_perm`: the order does not matter where the names are distinct.

Two lists of entries are equivalent if they give the same value to every name, whatever their order.
-/

namespace IndexOptions

abbrev Entries (α : Type) := List (Text × α)

namespace Entries

variable {α : Type}

/-- The value under a name. -/
def get? (es : Entries α) (key : Text) : Option α := List.lookup key es

def keys (es : Entries α) : List Text := es.map Prod.fst

def has (es : Entries α) (key : Text) : Bool := (es.get? key).isSome

/-- Give a value to a name: in its place if the name is there, else at the end. -/
def put (es : Entries α) (key : Text) (value : α) : Entries α :=
  match es with
  | [] => [(key, value)]
  | (k, v) :: r => if k = key then (k, value) :: r else (k, v) :: put r key value

def erase (es : Entries α) (key : Text) : Entries α := es.filter fun e => e.1 ≠ key

/-- The entries of a list of pairs; of a repeated name the last value counts, at the place of the first. -/
def ofList (pairs : List (Text × α)) : Entries α := pairs.foldl (fun es e => es.put e.1 e.2) []

/-- Whether two lists of entries with distinct names give the same value to every name, up to `same`. -/
def equivBy (same : α → α → Bool) (es fs : Entries α) : Bool :=
  es.length == fs.length && es.all fun e =>
    match fs.get? e.1 with
    | some v => same e.2 v
    | none => false

/-! ## Laws -/

variable {es : Entries α} {key : Text}

theorem get?_cons (k : Text) (v : α) (r : Entries α) (name : Text) :
    get? ((k, v) :: r) name = if name = k then some v else get? r name := by
  rw [get?, List.lookup_cons]
  by_cases h : name = k
  · simp [h]
  · simp [get?, h, beq_eq_false_iff_ne.mpr h]

theorem get?_put (es : Entries α) (key name : Text) (value : α) :
    (es.put key value).get? name = if name = key then some value else es.get? name := by
  induction es with
  | nil => simp [put, get?_cons]
  | cons e r ih =>
    obtain ⟨k, v⟩ := e
    by_cases hk : k = key
    · simp only [put, hk, if_true, get?_cons]
      split <;> simp_all
    · simp only [put, hk, if_false, get?_cons, ih]
      split
      · next h => simp [h, hk]
      · rfl

theorem get?_erase (es : Entries α) (key name : Text) :
    (es.erase key).get? name = if name = key then none else es.get? name := by
  induction es with
  | nil => simp [erase, get?]
  | cons e r ih =>
    obtain ⟨k, v⟩ := e
    simp only [erase] at ih
    by_cases hk : k = key
    · simp only [erase, hk, ne_eq, not_true_eq_false, decide_false, Bool.false_eq_true, not_false_eq_true,
        List.filter_cons_of_neg, get?_cons, ih]
      split <;> rfl
    · simp only [erase, ne_eq, hk, not_false_eq_true, decide_true, List.filter_cons_of_pos, get?_cons, ih]
      by_cases h : name = k <;> simp [h, hk]

/-- The order of distinct names does not matter. -/
theorem get?_of_perm {es fs : Entries α} (h : es.Perm fs) (hn : es.keys.Nodup) (key : Text) :
    es.get? key = fs.get? key := by
  induction h with
  | nil => rfl
  | cons e _ ih => rw [get?_cons, get?_cons, ih (List.nodup_cons.mp hn).2]
  | swap e f es =>
    have hne : f.1 ≠ e.1 := fun heq => (List.nodup_cons.mp hn).1 (heq ▸ List.mem_cons_self)
    rw [get?_cons, get?_cons, get?_cons, get?_cons]
    by_cases hf : key = f.1
    · have he : key ≠ e.1 := fun he => hne (hf.symm.trans he)
      rw [if_pos hf, if_neg he, if_pos hf]
    · rw [if_neg hf, if_neg hf]
  | trans h₁ _ ih₁ ih₂ => rw [ih₁ hn, ih₂ ((h₁.map Prod.fst).nodup_iff.mp hn)]

theorem has_iff : es.has key ↔ key ∈ es.keys := by
  induction es with
  | nil => simp [has, get?, keys]
  | cons e r ih =>
    obtain ⟨k, v⟩ := e
    simp only [has, keys] at ih
    by_cases h : key = k <;> simp [has, keys, get?_cons, h, ih]

end Entries

end IndexOptions
