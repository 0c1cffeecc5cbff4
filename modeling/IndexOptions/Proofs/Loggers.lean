import IndexOptions.Proofs.LoggerNames
import Mathlib.Logic.Relation

/-!
# Loggers below others

A logger hangs below one that was there when it came to be, or came to be later. The links from a logger upward may
therefore miss a logger whose name is a cut of its name; what is kept is that no logger among the cuts of the name is
nearer than the parent (`Linked`). Where no two dots are in a row this is enough: then the links lead to every logger
there is whose name, with a dot, begins the name (`isUnder_of_isNamedUnder`).

Where some loggers have one level and all others none of their own, the links decide the effective level
(`effectiveLevel_of_levels`).
-/

namespace IndexOptions

open Logger (above isRoot rootName)

namespace Logger

variable {l : Logger} {top : Text}

/-! ## One logger -/

@[simp]
theorem name_relinked (l : Logger) (top : Text) : (l.relinked top).name = l.name := by
  unfold relinked
  split <;> rfl

@[simp]
theorem level_relinked (l : Logger) (top : Text) : (l.relinked top).level = l.level := by
  unfold relinked
  split <;> rfl

@[simp]
theorem decisions_relinked (l : Logger) (top : Text) : (l.relinked top).decisions = l.decisions := by
  unfold relinked
  split <;> rfl

@[simp]
theorem name_releveled (l : Logger) (name : Text) (level : Nat) : (l.releveled name level).name = l.name := rfl

@[simp]
theorem name_remembering (l : Logger) (name : Text) (level : Nat) (decision : Bool) :
    (l.remembering name level decision).name = l.name := by
  unfold remembering
  split <;> rfl

@[simp]
theorem level_remembering (l : Logger) (name : Text) (level : Nat) (decision : Bool) :
    (l.remembering name level decision).level = l.level := by
  unfold remembering
  split <;> rfl

@[simp]
theorem parent?_remembering (l : Logger) (name : Text) (level : Nat) (decision : Bool) :
    (l.remembering name level decision).parent? = l.parent? := by
  unfold remembering
  split <;> rfl

/-- A new logger takes another one below itself, or it is not among the cuts of its name, or no nearer than its
parent. -/
theorem relinked_cases (l : Logger) (top : Text) :
    (top ∈ above l.name.reverse ∧ ¬top <+: l.parentName ∧ (l.relinked top).parent? = some top) ∨
      (top ∉ above l.name.reverse ∨ top <+: l.parentName) ∧ (l.relinked top).parent? = l.parent? := by
  unfold relinked
  split
  · next h => exact Or.inl ⟨List.contains_iff_mem.mp h.1, h.2, rfl⟩
  · next h => exact Or.inr ⟨by rwa [not_and_or, not_not, List.contains_iff_mem] at h, rfl⟩

end Logger

namespace Loggers

variable {ls ls' : Loggers} {name other top parent : Text} {l : Logger} {root level own n : Nat}

/-! ## The loggers there are -/

theorem mem_of_get? (h : ls.get? name = some l) : l ∈ ls := List.mem_of_find?_eq_some h

theorem has_iff : ls.has name ↔ ∃ l ∈ ls, l.name = name := by
  simp [has, get?]

theorem get?_of_not_has (h : ¬ls.has name) : ls.get? name = none := by
  simpa [has] using h

theorem not_has_of_isRoot (h : isRoot name) : ¬ls.has name := by
  rw [has_iff]
  rintro ⟨l, -, rfl⟩
  rw [l.not_root] at h
  cases h

/-- What keeps the names of all loggers changes the logger that is found under a name. -/
theorem get?_map {f : Logger → Logger} (hf : ∀ l, (f l).name = l.name) (ls : Loggers) (name : Text) :
    get? (ls.map f) name = (ls.get? name).map f := by
  rw [get?, List.find?_map]
  simp only [Function.comp_def, hf]
  rfl

theorem has_map {f : Logger → Logger} (hf : ∀ l, (f l).name = l.name) : has (ls.map f) name = ls.has name := by
  rw [has, get?_map hf, Option.isSome_map, has]

/-! ## A logger comes to be -/

theorem obtain_of_there (h : isRoot name ∨ ls.has name) : ls.obtain name = ls := dif_pos h

/-- A logger that was not there is added, and the others are linked to it where need be. -/
theorem exists_obtain_eq (h : ¬(isRoot name ∨ ls.has name)) :
    ∃ l : Logger, ls.obtain name = ls.map (Logger.relinked · name) ++ [l] ∧ l.name = name ∧ l.level = 0 ∧
      l.decisions = [] ∧ l.parent? = ls.nearest? name :=
  ⟨_, dif_neg h, rfl, rfl, rfl, rfl⟩

theorem has_obtain : (ls.obtain name).has other ↔ ls.has other ∨ other = name ∧ ¬isRoot name := by
  by_cases h : isRoot name ∨ ls.has name
  · rw [obtain_of_there h]
    constructor
    · exact Or.inl
    · rintro (hother | ⟨rfl, hroot⟩)
      · exact hother
      · exact h.resolve_left hroot
  · obtain ⟨l, hobtain, rfl, -⟩ := exists_obtain_eq h
    rw [hobtain, has_iff, has_iff]
    simp [l.not_root, eq_comm]

theorem has_obtain_self (h : ¬isRoot name) : (ls.obtain name).has name := has_obtain.mpr (Or.inr ⟨rfl, h⟩)

/-- The level of a logger that comes to be is none, and the others keep theirs. -/
theorem exists_of_mem_obtain (h : l ∈ ls.obtain name) :
    (∃ old ∈ ls, old.name = l.name ∧ old.level = l.level) ∨ l.name = name ∧ l.level = 0 ∧ ¬ls.has name := by
  by_cases hthere : isRoot name ∨ ls.has name
  · rw [obtain_of_there hthere] at h
    exact Or.inl ⟨l, h, rfl, rfl⟩
  · obtain ⟨new, hobtain, hname, hlevel, -⟩ := exists_obtain_eq hthere
    rw [hobtain, List.mem_append, List.mem_map, List.mem_singleton] at h
    rcases h with ⟨old, hold, rfl⟩ | rfl
    · exact Or.inl ⟨old, hold, by simp⟩
    · exact Or.inr ⟨hname, hlevel, (not_or.mp hthere).2⟩

theorem has_setLevel : (ls.setLevel name level).has other ↔ ls.has other ∨ other = name ∧ ¬isRoot name := by
  rw [setLevel, has_map (Logger.name_releveled · name level), has_obtain]

/-- A logger has the level that is set for its name, or the one it had before. -/
theorem exists_of_mem_setLevel (h : l ∈ ls.setLevel name level) :
    l.name = name ∧ l.level = level ∨ l.name ≠ name ∧ ∃ old ∈ ls, old.name = l.name ∧ old.level = l.level := by
  obtain ⟨l, hl, rfl⟩ := List.mem_map.mp h
  by_cases hname : l.name = name
  · exact Or.inl ⟨hname, if_pos hname⟩
  · rcases exists_of_mem_obtain hl with hold | ⟨hnew, -⟩
    · exact Or.inr ⟨hname, by simpa [Logger.releveled, hname] using hold⟩
    · exact absurd hnew hname

/-! ## Decisions -/

/-- A logger that comes to be has decided nothing, and the others keep to what they have decided. -/
theorem decision?_obtain : (ls.obtain name).decision? other n = ls.decision? other n := by
  by_cases hthere : isRoot name ∨ ls.has name
  · rw [obtain_of_there hthere]
  · obtain ⟨new, hobtain, hname, -, hdecisions, -⟩ := exists_obtain_eq hthere
    have hget : get? (ls.map (Logger.relinked · name)) other = (ls.get? other).map (Logger.relinked · name) :=
      get?_map (Logger.name_relinked · name) ls other
    unfold decision?
    rw [hobtain, get?, List.find?_append, ← get?, hget]
    cases hother : ls.get? other with
    | some l => simp
    | none => by_cases hnew : new.name = other <;> simp [hnew, hdecisions]

/-- A decision is remembered by its logger for its level. -/
theorem decision?_remember {decision : Bool} : (ls.remember name level decision).decision? other n =
    if other = name ∧ n = level ∧ ls.has name then some decision else ls.decision? other n := by
  unfold decision? remember
  rw [get?_map (Logger.name_remembering · name level decision)]
  by_cases hname : other = name
  · subst hname
    cases hl : ls.get? other with
    | none => simp [has, hl]
    | some l =>
      by_cases hlevel : n = level
      · simp [has, hl, Logger.remembering, name_of_get? hl, hlevel]
      · simp [has, hl, Logger.remembering, name_of_get? hl, List.lookup_cons, hlevel, beq_eq_false_iff_ne.mpr hlevel]
  · cases hl : ls.get? other with
    | none => simp [hname]
    | some l => simp [Logger.remembering, hname, name_of_get? hl]

/-- The root has no entry of its own. -/
theorem decision?_of_isRoot (h : isRoot name) : ls.decision? name n = none := by
  rw [decision?, get?_of_not_has (not_has_of_isRoot h), Option.bind_none]

/-- Whenever a level is set, all decisions are forgotten. -/
theorem decision?_setLevel : (ls.setLevel name level).decision? other n = none := by
  unfold decision? setLevel
  rw [get?_map (Logger.name_releveled · name level)]
  cases (ls.obtain name).get? other <;> rfl

/-! ## Links upward -/

/-- A logger hangs below one that is there, and no logger among the cuts of its name is nearer. -/
structure IsLinked (ls : Loggers) (l : Logger) : Prop where
  has_parent : ∀ parent ∈ l.parent?, ls.has parent
  nearest : ∀ top ∈ above l.name.reverse, ls.has top → top <+: l.parentName

def Linked (ls : Loggers) : Prop := ∀ l ∈ ls, ls.IsLinked l

theorem linked_nil : Linked [] := by
  intro l hl
  cases hl

/-- What keeps the names and the parents keeps the links. -/
theorem linked_map {f : Logger → Logger} (hname : ∀ l, (f l).name = l.name) (hparent : ∀ l, (f l).parent? = l.parent?)
    (h : ls.Linked) : Linked (ls.map f) := by
  intro l hl
  obtain ⟨old, hold, rfl⟩ := List.mem_map.mp hl
  refine ⟨?_, ?_⟩
  · rw [hparent]
    simpa only [has_map hname] using (h old hold).has_parent
  · rw [hname, Logger.parentName, hparent]
    simpa only [has_map hname, Logger.parentName] using (h old hold).nearest

/-- The nearest logger above a name begins with every other one. -/
theorem prefix_nearest (htop : top ∈ above name.reverse) (hhas : ls.has top) :
    ∃ parent, ls.nearest? name = some parent ∧ top <+: parent := by
  unfold nearest?
  have hpairs := Logger.pairwise_above name.reverse
  generalize above name.reverse = cuts at htop hpairs
  induction cuts with
  | nil => cases htop
  | cons near cuts ih =>
    obtain ⟨hnear, hcuts⟩ := List.pairwise_cons.mp hpairs
    by_cases hthere : ls.has near
    · refine ⟨near, by simp [hthere], ?_⟩
      rcases List.mem_cons.mp htop with rfl | hfar
      · exact List.prefix_rfl
      · exact hnear top hfar
    · rcases List.mem_cons.mp htop with rfl | hfar
      · exact absurd hhas hthere
      · simpa [hthere] using ih hfar hcuts

/-- Linking a logger to a new one keeps it linked. -/
theorem isLinked_relinked (h : ls.IsLinked l) (hnew : ∀ other, ls'.has other ↔ ls.has other ∨ other = name) :
    IsLinked ls' (l.relinked name) := by
  rcases Logger.relinked_cases l name with ⟨habove, hfar, hparent⟩ | ⟨hstays, hparent⟩
  · refine ⟨?_, ?_⟩
    · rw [hparent]
      rintro _ ⟨⟩
      exact (hnew _).mpr (Or.inr rfl)
    · rw [Logger.name_relinked, Logger.parentName, hparent]
      intro top htop hhas
      rcases (hnew top).mp hhas with hold | rfl
      · -- both are cuts of one name, and the new one is longer than what the old parent begins with
        rcases List.prefix_or_prefix_of_prefix (Logger.prefix_of_mem_above htop) (Logger.prefix_of_mem_above habove)
          with hle | hge
        · exact hle
        · exact absurd (hge.trans (h.nearest top htop hold)) hfar
      · exact List.prefix_rfl
  · refine ⟨?_, ?_⟩
    · rw [hparent]
      exact fun parent hmem => (hnew parent).mpr (Or.inl (h.has_parent parent hmem))
    · rw [Logger.name_relinked, Logger.parentName, hparent]
      intro top htop hhas
      rcases (hnew top).mp hhas with hold | rfl
      · exact h.nearest top htop hold
      · exact hstays.resolve_left (not_not_intro htop)

/-- All loggers stay linked when one comes to be. -/
theorem linked_obtain (h : ls.Linked) : (ls.obtain name).Linked := by
  by_cases hthere : isRoot name ∨ ls.has name
  · rwa [obtain_of_there hthere]
  · have hnew : ∀ other, (ls.obtain name).has other ↔ ls.has other ∨ other = name := by
      intro other
      rw [has_obtain]
      simp [(not_or.mp hthere).1]
    obtain ⟨new, hobtain, hname, -, -, hparent⟩ := exists_obtain_eq hthere
    intro l hl
    rw [hobtain, List.mem_append, List.mem_map, List.mem_singleton] at hl
    rcases hl with ⟨old, hold, rfl⟩ | rfl
    · exact isLinked_relinked (h old hold) hnew
    · refine ⟨?_, ?_⟩
      · rw [hparent]
        exact fun parent hmem => (hnew parent).mpr (Or.inl (List.find?_some hmem))
      · intro top htop hhas
        rw [hname] at htop
        have hlength := Logger.length_lt_of_mem_above _ htop
        rcases (hnew top).mp hhas with hold | rfl
        · obtain ⟨parent, hnearest, hbegins⟩ := prefix_nearest htop hold
          rwa [Logger.parentName, hparent, hnearest]
        · simp at hlength

theorem linked_setLevel (h : ls.Linked) : (ls.setLevel name level).Linked :=
  linked_map (fun _ => rfl) (fun _ => rfl) (linked_obtain h)

theorem linked_remember {decision : Bool} (h : ls.Linked) : (ls.remember name level decision).Linked :=
  linked_map (fun _ => Logger.name_remembering _ _ _ _) (fun _ => Logger.parent?_remembering _ _ _ _) h

/-! ## Loggers below others -/

/-- A logger hangs directly below another one. -/
def HangsFrom (ls : Loggers) (name parent : Text) : Prop := ∃ l, ls.get? name = some l ∧ l.parent? = some parent

/-- The links from a logger lead to another one, which may be itself. -/
def IsUnder (ls : Loggers) (name top : Text) : Prop := Relation.ReflTransGen ls.HangsFrom name top

/-- A name that is another one, or that one with a dot and more. -/
def IsNamedUnder (name top : Text) : Prop := name = top ∨ top ++ [CodePoint.ofChar '.'] <+: name

instance (name top : Text) : Decidable (IsNamedUnder name top) := inferInstanceAs (Decidable (_ ∨ _))

/-- Links only lead to names that begin the name. -/
theorem isNamedUnder_of_isUnder (h : ls.IsUnder name top) : IsNamedUnder name top := by
  induction h using Relation.ReflTransGen.head_induction_on with
  | refl => exact Or.inl rfl
  | head hstep _ ih =>
    obtain ⟨l, hl, hparent⟩ := hstep
    have habove := l.parent_mem_above _ hparent
    rw [name_of_get? hl] at habove
    obtain ⟨rest, rfl⟩ := Logger.exists_rest_of_mem_above habove
    rcases ih with rfl | hmore
    · exact Or.inr ⟨rest, by simp⟩
    · exact Or.inr (hmore.trans (List.prefix_append _ _))

/-- Where no two dots are in a row, the links lead to every logger there is whose name is above. -/
theorem isUnder_of_isNamedUnder (hlinked : ls.Linked)
    (hsingle : ¬[CodePoint.ofChar '.', CodePoint.ofChar '.'] <:+: name)
    (hname : ls.has name) (htop : ls.has top) (hroot : ¬top <+: rootName) (hne : top ≠ []) (h : IsNamedUnder name top) :
    ls.IsUnder name top := by
  induction hn : name.length using Nat.strongRecOn generalizing name with
  | ind n ih =>
    subst hn
    rcases h with rfl | ⟨rest, hrest⟩
    · exact .refl
    · rw [List.append_assoc, List.singleton_append, eq_comm] at hrest
      obtain ⟨l, hl⟩ := Option.isSome_iff_exists.mp hname
      have hlink := hlinked l (mem_of_get? hl)
      have habove := Logger.mem_above_of_single_dots hsingle hne hrest
      have hbegins := hlink.nearest top (by rwa [name_of_get? hl]) htop
      -- the parent is no root, since the name above does not begin the root's
      cases hparent : l.parent? with
      | none =>
        rw [Logger.parentName, hparent] at hbegins
        exact absurd hbegins hroot
      | some parent =>
        rw [Logger.parentName, hparent, Option.getD_some] at hbegins
        have hcut := l.parent_mem_above parent hparent
        rw [name_of_get? hl] at hcut
        have hshort : parent.length < name.length := by simpa using Logger.length_lt_of_mem_above _ hcut
        have hinside : parent <:+: name := (Logger.prefix_of_mem_above hcut).isInfix
        refine .head ⟨l, hl, hparent⟩ (ih parent.length hshort (fun hdots => hsingle (hdots.trans hinside))
          (hlink.has_parent parent hparent) ?_ rfl)
        -- what follows the upper name in the name of the parent begins with the same dot
        obtain ⟨more, rfl⟩ := hbegins
        cases more with
        | nil => exact Or.inl (List.append_nil top)
        | cons c more =>
          obtain ⟨behind, hbehind⟩ := Logger.exists_rest_of_mem_above hcut
          rw [hbehind, List.append_assoc, List.append_cancel_left_eq, List.cons_append] at hrest
          exact Or.inr ⟨more, by simp [(List.cons.inj hrest).1]⟩

/-! ## Effective levels -/

theorem effectiveLevel_of_none (h : ls.get? name = none) : ls.effectiveLevel root name = root := by
  rw [effectiveLevel]
  split
  · rfl
  · next hl => cases hl.symm.trans h

theorem effectiveLevel_of_level (h : ls.get? name = some l) (hlevel : l.level ≠ 0) :
    ls.effectiveLevel root name = l.level := by
  rw [effectiveLevel]
  split
  · next hl => cases hl.symm.trans h
  · next hl =>
    cases hl.symm.trans h
    rw [if_pos hlevel]

theorem effectiveLevel_of_top (h : ls.get? name = some l) (hlevel : l.level = 0) (hparent : l.parent? = none) :
    ls.effectiveLevel root name = root := by
  rw [effectiveLevel]
  split
  · rfl
  · next hl =>
    cases hl.symm.trans h
    rw [if_neg (not_not_intro hlevel)]
    split
    · rfl
    · next hp => cases hp.symm.trans hparent

theorem effectiveLevel_of_parent (h : ls.get? name = some l) (hlevel : l.level = 0)
    (hparent : l.parent? = some parent) :
    ls.effectiveLevel root name = ls.effectiveLevel root parent := by
  rw [effectiveLevel]
  split
  · next hl => cases hl.symm.trans h
  · next hl =>
    cases hl.symm.trans h
    rw [if_neg (not_not_intro hlevel)]
    split
    · next hp => cases hp.symm.trans hparent
    · next hp =>
      cases hp.symm.trans hparent
      rfl

/-- No other loggers than the given ones have a level, and these have it. -/
structure Levels (ls : Loggers) (tops : List Text) (own : Nat) : Prop where
  has_top : ∀ top ∈ tops, ls.has top
  level_eq : ∀ l ∈ ls, l.level = if l.name ∈ tops then own else 0

variable {tops : List Text}

/-- The links from a logger lead to one of the given ones. -/
def IsUnderAny (ls : Loggers) (name : Text) (tops : List Text) : Prop := ∃ top ∈ tops, ls.IsUnder name top

/-- From a logger that hangs from another one, and is none of the given ones, one comes to these through the other
one. -/
theorem isUnderAny_iff_of_parent (h : ls.get? name = some l) (hparent : l.parent? = some parent) (hname : name ∉ tops) :
    ls.IsUnderAny name tops ↔ ls.IsUnderAny parent tops := by
  constructor
  · rintro ⟨top, htop, hunder⟩
    rcases hunder.cases_head with rfl | ⟨next, ⟨l', hl', hnext⟩, hrest⟩
    · exact absurd htop hname
    · cases hl'.symm.trans h
      cases hnext.symm.trans hparent
      exact ⟨top, htop, hrest⟩
  · rintro ⟨top, htop, hunder⟩
    exact ⟨top, htop, .head ⟨l, h, hparent⟩ hunder⟩

/-- A logger without a parent comes to none of the given ones, unless it is one. -/
theorem not_isUnderAny_of_top (h : ∀ l parent, ls.get? name = some l → l.parent? ≠ some parent) (hname : name ∉ tops) :
    ¬ls.IsUnderAny name tops := by
  rintro ⟨top, htop, hunder⟩
  rcases hunder.cases_head with rfl | ⟨next, ⟨l, hl, hnext⟩, -⟩
  · exact hname htop
  · exact h l next hl hnext

open Classical in
/-- **The links decide.** Where the given loggers have one level and no others have any, a logger is effectively at this
level if its links lead to one of these, and else at the level of the root. -/
theorem effectiveLevel_of_levels (h : ls.Levels tops own) (hown : own ≠ 0) (root : Nat) (name : Text) :
    ls.effectiveLevel root name = if ls.IsUnderAny name tops then own else root := by
  have hlevel : ∀ {name l}, ls.get? name = some l → l.level = if name ∈ tops then own else 0 := by
    intro name l hl
    rw [h.level_eq l (mem_of_get? hl), name_of_get? hl]
  induction name using Loggers.effectiveLevel.induct ls with
  | case1 name hnone =>
    have hname : name ∉ tops := fun htop => by simpa [has, hnone] using h.has_top name htop
    rw [effectiveLevel_of_none hnone, if_neg (not_isUnderAny_of_top (by simp [hnone]) hname)]
  | case2 name l hl hown =>
    have hname : name ∈ tops := by
      by_contra hname
      exact hown (by rw [hlevel hl, if_neg hname])
    rw [effectiveLevel_of_level hl hown, hlevel hl, if_pos hname, if_pos ⟨name, hname, .refl⟩]
  | case3 name l hl hzero hparent =>
    have hname : name ∉ tops := fun hname => hzero (by rwa [hlevel hl, if_pos hname])
    have hnone : ¬ls.IsUnderAny name tops := by
      refine not_isUnderAny_of_top (fun l' parent hl' => ?_) hname
      cases hl'.symm.trans hl
      simp [hparent]
    rw [effectiveLevel_of_top hl (not_not.mp hzero) hparent, if_neg hnone]
  | case4 name l hl hzero parent hparent ih =>
    have hname : name ∉ tops := fun hname => hzero (by rwa [hlevel hl, if_pos hname])
    have hsame := isUnderAny_iff_of_parent hl hparent hname
    rw [effectiveLevel_of_parent hl (not_not.mp hzero) hparent, ih]
    simp only [hsame]

/-! ## Keeping the levels -/

/-- Loggers that are given one level one after the other have it, and the others have the level they had. -/
theorem exists_of_mem_foldl_setLevel (h : l ∈ tops.foldl (fun ls top => ls.setLevel top own) ls) :
    l.name ∈ tops ∧ l.level = own ∨ l.name ∉ tops ∧ ∃ old ∈ ls, old.name = l.name ∧ old.level = l.level := by
  induction tops generalizing ls with
  | nil => exact Or.inr ⟨List.not_mem_nil, l, h, rfl, rfl⟩
  | cons top tops ih =>
    rcases ih h with ⟨hmem, hlevel⟩ | ⟨hother, old, hold, hname, hlevel⟩
    · exact Or.inl ⟨List.mem_cons_of_mem _ hmem, hlevel⟩
    · rcases exists_of_mem_setLevel hold with ⟨htop, hown⟩ | ⟨htop, older, holder, hsame, hkept⟩
      · exact Or.inl ⟨by simp [← hname, htop], hlevel.symm.trans hown⟩
      · refine Or.inr ⟨?_, older, holder, hsame.trans hname, hkept.trans hlevel⟩
        rw [List.mem_cons, not_or]
        exact ⟨hname ▸ htop, hother⟩

theorem has_foldl_setLevel :
    (tops.foldl (fun ls top => ls.setLevel top own) ls).has name ↔ ls.has name ∨ name ∈ tops ∧ ¬isRoot name := by
  induction tops generalizing ls with
  | nil => simp
  | cons top tops ih =>
    rw [List.foldl_cons, ih, has_setLevel, List.mem_cons]
    constructor
    · rintro ((hhas | ⟨rfl, hroot⟩) | ⟨hmem, hroot⟩)
      · exact Or.inl hhas
      · exact Or.inr ⟨Or.inl rfl, hroot⟩
      · exact Or.inr ⟨Or.inr hmem, hroot⟩
    · rintro (hhas | ⟨rfl | hmem, hroot⟩)
      · exact Or.inl (Or.inl hhas)
      · exact Or.inl (Or.inr ⟨rfl, hroot⟩)
      · exact Or.inr ⟨hmem, hroot⟩

/-- Loggers of which only the given ones had levels have these levels once they are set for the given ones. -/
theorem levels_foldl_setLevel (h : ∀ l ∈ ls, l.level ≠ 0 → l.name ∈ tops) (hroot : ∀ top ∈ tops, ¬isRoot top)
    (own : Nat) :
    (tops.foldl (fun ls top => ls.setLevel top own) ls).Levels tops own where
  has_top top htop := has_foldl_setLevel.mpr (Or.inr ⟨htop, hroot top htop⟩)
  level_eq l hl := by
    rcases exists_of_mem_foldl_setLevel hl with ⟨hmem, hlevel⟩ | ⟨hother, old, hold, hname, hlevel⟩
    · rw [hlevel, if_pos hmem]
    · rw [if_neg hother, ← hlevel]
      by_contra hzero
      exact hother (hname ▸ h old hold hzero)

theorem linked_foldl_setLevel (h : ls.Linked) : (tops.foldl (fun ls top => ls.setLevel top own) ls).Linked := by
  induction tops generalizing ls with
  | nil => exact h
  | cons top tops ih => exact ih (linked_setLevel h)

theorem levels_obtain (h : ls.Levels tops own) : (ls.obtain name).Levels tops own where
  has_top top htop := has_obtain.mpr (Or.inl (h.has_top top htop))
  level_eq l hl := by
    rcases exists_of_mem_obtain hl with ⟨old, hold, hname, hlevel⟩ | ⟨hname, hlevel, hnew⟩
    · rw [← hlevel, ← hname]
      exact h.level_eq old hold
    · have hother : l.name ∉ tops := fun htop => hnew (hname ▸ h.has_top l.name htop)
      rw [hlevel, if_neg hother]

theorem levels_remember {decision : Bool} (h : ls.Levels tops own) :
    (ls.remember name level decision).Levels tops own where
  has_top top htop := by
    rw [remember, has_map (Logger.name_remembering · name level decision)]
    exact h.has_top top htop
  level_eq l hl := by
    obtain ⟨old, hold, rfl⟩ := List.mem_map.mp hl
    rw [Logger.level_remembering, Logger.name_remembering]
    exact h.level_eq old hold

end Loggers

end IndexOptions
