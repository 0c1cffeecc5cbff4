import IndexOptions.Path.Basic

/-!
# Paths and their texts

The paths that are read from texts are those whose components name something and hold no slash: each of them is of this
kind (`isNormal_parse`), and a path of this kind is read again from its own text (`parse_text`). The root is told by the
slashes at the beginning, and the components are the pieces between the slashes.

A relative text goes on from a path (`join_parse_of_isRelative`), and any other text starts anew
(`join_parse_of_rooted`).
-/

namespace IndexOptions.Path

variable {p q : Path} {t : Text}

/-! ## Normal paths -/

/-- The components name something and hold no slash. -/
def IsNormal (p : Path) : Prop := ∀ c ∈ p.parts, isComponent c ∧ CodePoint.ofChar '/' ∉ c

/-- Reading a path drops the components that name nothing, and none of the others has a slash. -/
theorem isNormal_parse (t : Text) : (parse t).IsNormal := by
  intro c hc
  obtain ⟨hsplit, hcomponent⟩ := List.mem_filter.mp hc
  exact ⟨hcomponent, Text.not_mem_of_mem_splitOn hsplit⟩

/-- A path that goes on from another one is in normal form if both are. -/
theorem isNormal_join (hp : p.IsNormal) (hq : q.IsNormal) : (p.join q).IsNormal := by
  unfold join
  split
  · intro c hc
    rcases List.mem_append.mp hc with hc | hc
    · exact hp c hc
    · exact hq c hc
  · exact hq

/-! ## The text of a path -/

/-- The components with slashes between them. -/
def body (p : Path) : Text := Text.join "/" p.parts

theorem ne_nil_of_isComponent {c : Text} (h : isComponent c) : c ≠ [] := by
  rintro rfl
  cases h

/-- The pieces between the slashes are the components again. -/
theorem filter_splitOn_body (h : p.IsNormal) : (Text.splitOn '/' p.body).filter isComponent = p.parts := by
  by_cases hnil : p.parts = []
  · rw [body, hnil]
    rfl
  · have hsplit : Text.splitOn '/' p.body = p.parts := Text.splitOn_join hnil fun c hc => (h c hc).2
    rw [hsplit]
    exact List.filter_eq_self.mpr fun c hc => (h c hc).1

/-- A component begins with something else than a slash. -/
theorem takeWhile_body (h : p.IsNormal) : (p.body.takeWhile fun (c : CodePoint) => c = '/') = [] := by
  unfold body
  cases hparts : p.parts with
  | nil => rfl
  | cons c cs =>
    obtain ⟨hcomponent, hslash⟩ := h c (hparts ▸ List.mem_cons_self)
    cases c with
    | nil => exact absurd rfl (ne_nil_of_isComponent hcomponent)
    | cons x c =>
      have hx : x ≠ CodePoint.ofChar '/' := fun hx => hslash (hx ▸ List.mem_cons_self)
      cases cs <;> simp [Text.join, hx]

theorem splitOn_slash_cons (t : Text) : Text.splitOn '/' (CodePoint.ofChar '/' :: t) = [] :: Text.splitOn '/' t := rfl

/-- A normal path is read from its text. -/
theorem parse_text (h : p.IsNormal) : parse p.text = p := by
  have hparts := filter_splitOn_body h
  have hslashes := takeWhile_body h
  have htext : p.text = if (p.root.text ++ p.body).isEmpty then Text.ofString "." else p.root.text ++ p.body := rfl
  obtain ⟨root, parts⟩ := p
  cases root with
  | none =>
    cases parts with
    | nil => rfl
    | cons c cs =>
      have hne : (Path.mk .none (c :: cs)).body ≠ [] := by
        intro hnil
        rw [hnil] at hparts
        cases hparts
      rw [htext, if_neg (by simpa [Root.text] using hne)]
      show parse (Path.mk .none (c :: cs)).body = _
      rw [parse, hslashes, hparts]
      rfl
  | slash =>
    rw [htext, if_neg (by simp [Root.text, Text.ofString])]
    show parse (CodePoint.ofChar '/' :: (Path.mk .slash parts).body) = _
    rw [parse, splitOn_slash_cons, List.takeWhile_cons_of_pos (by simp), hslashes,
      List.filter_cons_of_neg (by simp [isComponent]), hparts]
    rfl
  | twoSlashes =>
    rw [htext, if_neg (by simp [Root.text, Text.ofString])]
    show parse (CodePoint.ofChar '/' :: CodePoint.ofChar '/' :: (Path.mk .twoSlashes parts).body) = _
    rw [parse, splitOn_slash_cons, splitOn_slash_cons, List.takeWhile_cons_of_pos (by simp),
      List.takeWhile_cons_of_pos (by simp), hslashes, List.filter_cons_of_neg (by simp [isComponent]),
      List.filter_cons_of_neg (by simp [isComponent]), hparts]
    rfl

/-! ## Going on from a path -/

/-- The path with further components. -/
def extend (p : Path) (parts : List Text) : Path := ⟨p.root, p.parts ++ parts⟩

@[simp] theorem extend_extend (p : Path) (cs ds : List Text) : (p.extend cs).extend ds = p.extend (cs ++ ds) := by
  simp [extend]

/-- The text does not begin with a slash. -/
def IsRelative (t : Text) : Prop := t.head? ≠ some (CodePoint.ofChar '/')

instance : DecidablePred IsRelative := fun _ => inferInstanceAs (Decidable (_ ≠ _))

/-- The root of a path is told by the slashes at the beginning of its text. -/
theorem root_parse_eq_none_iff : (parse t).root = .none ↔ IsRelative t := by
  have hroot : ∀ n, Root.ofSlashes n = .none ↔ n = 0 := by
    intro n
    unfold Root.ofSlashes
    split
    · simp [*]
    · split <;> simp [*]
  rw [parse, hroot, IsRelative]
  cases t with
  | nil => simp
  | cons c t => by_cases hc : c = CodePoint.ofChar '/' <;> simp [hc]

/-- A relative text adds its components. -/
theorem join_parse_of_isRelative (p : Path) (h : IsRelative t) : p.join (parse t) = p.extend (parse t).parts :=
  if_pos (root_parse_eq_none_iff.mpr h)

/-- A text that begins with a slash leaves nothing of the path before it. -/
theorem join_parse_of_rooted (p : Path) (h : ¬IsRelative t) : p.join (parse t) = parse t :=
  if_neg (mt root_parse_eq_none_iff.mp h)

end IndexOptions.Path
