import IndexOptions.Text.Basic

/-!
# Loggers

Loggers have dotted names and hang below one another, and in the end below the root. A logger comes to be when it is
first asked for (`Loggers.obtain`). It then hangs below the nearest logger there is among the cuts of its name, and
loggers of longer names that hung higher are hung below it. So where a logger hangs depends on the loggers there are,
and not on its name alone.

The effective level of a logger is the first level that is met on the way up (`Loggers.effectiveLevel`). What a logger
decides about the records of a level it remembers, until a level is set for any logger (`Loggers.setLevel`); that
loggers are hung elsewhere does not make it forget.

No other logger than the root has handlers, and every logger passes its records on to the root.
-/

namespace IndexOptions

namespace Logger

/-- The name of the root logger. -/
def rootName : Text := "root"

/-- Whether a name is one of the two that are taken for the root. -/
def isRoot (name : Text) : Bool := name.isEmpty || name = rootName

/-- The names above a name, nearest first, for the reversed name. The name is cut before its last dot, and a cut again
before the last dot in it that is not its last code point. No cut is empty. -/
def above : (reversed : Text) → List Text
  | [] => []
  | [_] => []
  | c :: d :: r => if c = '.' then (d :: r).reverse :: above r else above (d :: r)

/-- A cut is shorter than the name. -/
theorem length_lt_of_mem_above {top : Text} (reversed : Text) (h : top ∈ above reversed) :
    top.length < reversed.length := by
  induction reversed using above.induct with
  | case1 | case2 => cases h
  | case3 d r ih =>
    rw [above, if_pos rfl, List.mem_cons] at h
    rcases h with rfl | h
    · simp
    · exact Nat.lt_trans (ih h) (Nat.lt_succ_of_lt (Nat.lt_succ_self _))
  | case4 c d r hc ih =>
    rw [above, if_neg hc] at h
    exact Nat.lt_trans (ih h) (by simp)

end Logger

open Logger (isRoot rootName above)

/-- A logger below the root. It hangs below a cut of its name or, without a parent, below the root itself. -/
structure Logger where
  name : Text
  /-- Zero counts as no level. -/
  level : Nat
  parent? : Option Text
  /-- What was decided about the records of a level, the last decision first. -/
  decisions : List (Nat × Bool)
  not_root : isRoot name = false
  parent_mem_above : ∀ parent ∈ parent?, parent ∈ above name.reverse
deriving DecidableEq, Repr

namespace Logger

def parentName (l : Logger) : Text := l.parent?.getD rootName

/-- The logger after another one has come to be: it hangs below that if its name has it as a cut, unless the name of its
parent begins with it. -/
def relinked (l : Logger) (top : Text) : Logger :=
  if h : (above l.name.reverse).contains top ∧ ¬top <+: l.parentName then
    { l with parent? := some top, parent_mem_above := by simpa using h.1 }
  else l

/-- The logger after the one of a name was given a level. -/
def releveled (l : Logger) (name : Text) (level : Nat) : Logger :=
  { l with level := if l.name = name then level else l.level, decisions := [] }

/-- The logger after the one of a name has decided about the records of a level. -/
def remembering (l : Logger) (name : Text) (level : Nat) (decision : Bool) : Logger :=
  if l.name = name then { l with decisions := (level, decision) :: l.decisions } else l

theorem length_parent_lt {l : Logger} {parent : Text} (h : l.parent? = some parent) :
    parent.length < l.name.length := by
  simpa using length_lt_of_mem_above _ (l.parent_mem_above parent (by simp [h]))

end Logger

abbrev Loggers := List Logger

namespace Loggers

def get? (ls : Loggers) (name : Text) : Option Logger := ls.find? fun l => l.name = name

def has (ls : Loggers) (name : Text) : Bool := (ls.get? name).isSome

/-- The nearest logger there is above a name. -/
def nearest? (ls : Loggers) (name : Text) : Option Text := (above name.reverse).find? ls.has

theorem mem_above_of_nearest? {ls : Loggers} {name parent : Text} (h : parent ∈ ls.nearest? name) :
    parent ∈ above name.reverse := List.mem_of_find?_eq_some h

/-- The loggers after one was asked for by its name. -/
def obtain (ls : Loggers) (name : Text) : Loggers :=
  if h : isRoot name = true ∨ ls.has name = true then ls
  else
    ls.map (Logger.relinked · name) ++
      [⟨name, 0, ls.nearest? name, [], by simpa using (not_or.mp h).1, fun _ => mem_above_of_nearest?⟩]

/-- Give a logger a level. All decisions are forgotten. -/
def setLevel (ls : Loggers) (name : Text) (level : Nat) : Loggers :=
  (ls.obtain name).map (Logger.releveled · name level)

/-- What was decided about records of a level. -/
def decision? (ls : Loggers) (name : Text) (level : Nat) : Option Bool :=
  (ls.get? name).bind fun l => l.decisions.lookup level

def remember (ls : Loggers) (name : Text) (level : Nat) (decision : Bool) : Loggers :=
  ls.map (Logger.remembering · name level decision)

theorem name_of_get? {ls : Loggers} {name : Text} {l : Logger} (h : ls.get? name = some l) : l.name = name := by
  simpa using List.find?_some h

/-- The first level other than zero on the way up from a logger, the root having the given one. -/
def effectiveLevel (ls : Loggers) (root : Nat) (name : Text) : Nat :=
  match _h : ls.get? name with
  | none => root
  | some l =>
    if l.level ≠ 0 then l.level
    else
      match _hp : l.parent? with
      | none => root
      | some parent => ls.effectiveLevel root parent
termination_by name.length
decreasing_by
  rw [← name_of_get? _h]
  exact Logger.length_parent_lt _hp

end Loggers

end IndexOptions
