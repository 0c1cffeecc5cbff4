import IndexOptions.Proofs.BracketDepth

/-!
# The arguments at the top level

`splitTopLevel` goes through a text once, with the depth as its only memory. What comes out is told here without the
pass: pieces that make the text again with commas between them, none of which has a comma at depth zero, and of which
all but the last come back to depth zero (`IsTopLevelSplit`). There is exactly one such list for every text, also for
those whose brackets do not match (`splitTopLevel_only_split`).

The depth at which a piece begins is zero for all pieces but the first, whose depth is that of the pass (`Pieces`). The
pass makes such pieces (`pieces_splitFrom`), and it finds them again in their join (`splitFrom_join`).
-/

namespace IndexOptions.ColumnType

variable {depth : Int} {c : CodePoint} {p r t : Text} {ps : List Text}

/-- The pieces with commas between them. -/
abbrev joined (ps : List Text) : Text := Text.join [CodePoint.ofChar ','] ps

/-- The pieces of a text between its commas at depth zero, counted from the beginning of each piece. -/
structure IsTopLevelSplit (t : Text) (ps : List Text) : Prop where
  ne_nil : ps ≠ []
  joins : joined ps = t
  uncut : ∀ p ∈ ps, Uncut 0 p
  settled : ∀ p ∈ ps.dropLast, depthFrom 0 p = 0

/-! ## Pieces at a depth -/

/-- Pieces of which the first stands at a depth and the others at zero. No piece has a comma at depth zero, and behind
each but the last one the depth is zero. -/
inductive Pieces : Int → List Text → Prop
  | last {depth : Int} {p : Text} (huncut : Uncut depth p) : Pieces depth [p]
  | more {depth : Int} {p : Text} {ps : List Text} (huncut : Uncut depth p) (hsettled : depthFrom depth p = 0)
    (hrest : Pieces 0 ps) : Pieces depth (p :: ps)

theorem Pieces.ne_nil (h : Pieces depth ps) : ps ≠ [] := by
  cases h <;> exact List.cons_ne_nil _ _

/-- Pieces at depth zero are told by what each of them is on its own. -/
theorem pieces_zero_iff :
    Pieces 0 ps ↔ ps ≠ [] ∧ (∀ p ∈ ps, Uncut 0 p) ∧ ∀ p ∈ ps.dropLast, depthFrom 0 p = 0 := by
  induction ps with
  | nil => exact ⟨fun h => absurd rfl h.ne_nil, fun h => absurd rfl h.1⟩
  | cons p ps ih =>
    constructor
    · intro h
      cases h with
      | last huncut => simpa using huncut
      | more huncut hsettled hrest =>
        obtain ⟨hne, hall, hinner⟩ := ih.mp hrest
        refine ⟨List.cons_ne_nil _ _, List.forall_mem_cons.mpr ⟨huncut, hall⟩, ?_⟩
        rw [List.dropLast_cons_of_ne_nil hne]
        exact List.forall_mem_cons.mpr ⟨hsettled, hinner⟩
    · rintro ⟨-, hall, hinner⟩
      obtain ⟨huncut, hall⟩ := List.forall_mem_cons.mp hall
      by_cases hne : ps = []
      · rw [hne]
        exact .last huncut
      · rw [List.dropLast_cons_of_ne_nil hne] at hinner
        obtain ⟨hsettled, hinner⟩ := List.forall_mem_cons.mp hinner
        exact .more huncut hsettled (ih.mpr ⟨hne, hall, hinner⟩)

theorem isTopLevelSplit_iff : IsTopLevelSplit t ps ↔ Pieces 0 ps ∧ joined ps = t := by
  rw [pieces_zero_iff]
  constructor
  · intro h
    exact ⟨⟨h.ne_nil, h.uncut, h.settled⟩, h.joins⟩
  · rintro ⟨⟨hne, huncut, hsettled⟩, hjoins⟩
    exact ⟨hne, hjoins, huncut, hsettled⟩

/-! ## The pass makes pieces -/

/-- A code point that is no comma at depth zero goes to the first piece. -/
theorem Pieces.prepend (h : Pieces (depthAfter depth c) ps) (hc : c = CodePoint.ofChar ',' → depth ≠ 0) :
    Pieces depth (prepend c ps) := by
  cases h with
  | last huncut => exact .last (uncut_cons_iff.mpr ⟨hc, huncut⟩)
  | more huncut hsettled hrest => exact .more (uncut_cons_iff.mpr ⟨hc, huncut⟩) hsettled hrest

theorem pieces_splitFrom (depth : Int) (t : Text) : Pieces depth (splitFrom depth t) := by
  induction t generalizing depth with
  | nil => exact .last uncut_nil
  | cons c t ih =>
    rw [splitFrom]
    split
    · next hcut =>
      obtain ⟨-, rfl⟩ : c = CodePoint.ofChar ',' ∧ depth = 0 := by simpa using hcut
      exact .more uncut_nil rfl (ih 0)
    · next hcut =>
      have hc : c = CodePoint.ofChar ',' → depth ≠ 0 := by simpa using hcut
      exact (ih _).prepend hc

/-! ## Pieces are found again -/

/-- Pieces are cut where they were joined: a piece is not cut inside, and the comma behind it is at depth zero. -/
theorem splitFrom_join (h : Pieces depth ps) : splitFrom depth (joined ps) = ps := by
  induction h with
  | last huncut => exact splitFrom_of_uncut huncut
  | @more depth p ps huncut hsettled hrest ih =>
    calc splitFrom depth (joined (p :: ps))
      _ = splitFrom depth (p ++ CodePoint.ofChar ',' :: joined ps) := by
        rw [joined, Text.join_cons _ _ hrest.ne_nil, List.append_assoc, List.singleton_append]
      _ = splitFrom depth p ++ splitFrom 0 (joined ps) := splitFrom_comma hsettled _
      _ = p :: ps := by rw [splitFrom_of_uncut huncut, ih, List.singleton_append]

/-! ## Matching brackets -/

/-- Both sides of a comma at depth zero have matching brackets if the whole has. -/
theorem Balanced.of_comma (h : Balanced (p ++ CodePoint.ofChar ',' :: r)) (hp : depthFrom 0 p = 0) :
    Balanced p ∧ Balanced r := by
  have hbehind : ∀ q, depthFrom 0 (p ++ CodePoint.ofChar ',' :: q) = depthFrom 0 q := by
    intro q
    rw [depthFrom_append, hp]
    rfl
  refine ⟨⟨fun q hq => h.nonneg q (hq.trans (List.prefix_append _ _)), hp⟩, fun q hq => ?_, ?_⟩
  · rw [← hbehind]
    exact h.nonneg _ ((List.prefix_append_right_inj p).mpr (List.cons_prefix_cons.mpr ⟨rfl, hq⟩))
  · rw [← hbehind]
    exact h.settled

theorem Pieces.balanced (h : Pieces 0 ps) (hjoin : Balanced (joined ps)) : ∀ p ∈ ps, Balanced p := by
  induction ps with
  | nil => simp
  | cons p ps ih =>
    cases h with
    | last => simpa [Text.join] using hjoin
    | more huncut hsettled hrest =>
      rw [joined, Text.join_cons _ _ hrest.ne_nil, List.append_assoc, List.singleton_append] at hjoin
      obtain ⟨hp, hps⟩ := hjoin.of_comma hsettled
      exact List.forall_mem_cons.mpr ⟨hp, ih hrest hps⟩

/-! ## The only split -/

/-- **The split at the top level is the only one.** The pieces of a text make the text again, none has a comma at depth
zero, all but the last come back to depth zero, and no other list is like this. So pieces of this kind are found again
in their join; and if the brackets of a text match, those of each piece do. -/
theorem splitTopLevel_only_split (t : Text) :
    IsTopLevelSplit t (splitTopLevel t) ∧
      (∀ ps, IsTopLevelSplit t ps → ps = splitTopLevel t) ∧
      (∀ ps, IsTopLevelSplit (joined ps) ps → splitTopLevel (joined ps) = ps) ∧
      (Balanced t → ∀ p ∈ splitTopLevel t, Balanced p) := by
  have hpieces : Pieces 0 (splitTopLevel t) := pieces_splitFrom 0 t
  have hjoins : joined (splitTopLevel t) = t := join_splitFrom 0 t
  refine ⟨isTopLevelSplit_iff.mpr ⟨hpieces, hjoins⟩, ?_, ?_, ?_⟩
  · intro ps h
    obtain ⟨hps, rfl⟩ := isTopLevelSplit_iff.mp h
    exact (splitFrom_join hps).symm
  · intro ps h
    exact splitFrom_join (isTopLevelSplit_iff.mp h).1
  · intro h
    exact hpieces.balanced (hjoins.symm ▸ h)

/-- Pieces with brackets that match, that close before they open, and that stay open in the last piece. -/
def unevenPieces : List Text := ["map<a,b>", "", ">,<", "c<d,e"]

/-- The uneven pieces are what their join is split into, and so are the arguments of a map of maps. -/
theorem splitTopLevel_only_split_unevenPieces :
    IsTopLevelSplit (joined unevenPieces) unevenPieces ∧ splitTopLevel (joined unevenPieces) = unevenPieces ∧
      Balanced "map<a,b>,map<c,d>" ∧ ∀ p ∈ splitTopLevel "map<a,b>,map<c,d>", Balanced p := by
  have huneven : IsTopLevelSplit (joined unevenPieces) unevenPieces := ⟨by decide, rfl, by decide, by decide⟩
  have hbalanced : Balanced "map<a,b>,map<c,d>" := by decide
  obtain ⟨-, -, hfound, -⟩ := splitTopLevel_only_split (joined unevenPieces)
  obtain ⟨-, -, -, hmaps⟩ := splitTopLevel_only_split "map<a,b>,map<c,d>"
  exact ⟨huneven, hfound _ huneven, hbalanced, hmaps hbalanced⟩

end IndexOptions.ColumnType
