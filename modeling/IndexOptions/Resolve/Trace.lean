import IndexOptions.Logging.Level
import IndexOptions.Options.Rejection

/-!
# Traced computations

Resolving options calls on a directory service and a schema builder and writes to a log. A traced computation is a
result together with the list of these events, in order; a computation that stops keeps the events up to there. The
result does not depend on the events (`result_bind`).
-/

namespace IndexOptions

inductive Event where
  | logged (record : LogRecord)
  /-- The directory service was asked for the base directory of a table. -/
  | asked (table : Table)
  /-- The builder was given a schema text. -/
  | built (text : Text)
  /-- A schema was checked against the columns of a table. -/
  | checked (table : Table)
deriving Repr

structure Traced (α : Type) where
  events : List Event
  result : Except ResolveError α

namespace Traced

variable {α β : Type}

/-- A result without events. -/
def of (result : Except ResolveError α) : Traced α := ⟨[], result⟩

/-- Go on with the value of a computation, if it has one. -/
def andThen (x : Traced α) (f : α → Traced β) : Traced β :=
  match x.result with
  | .ok a => ⟨x.events ++ (f a).events, (f a).result⟩
  | .error e => ⟨x.events, .error e⟩

instance : Monad Traced where
  pure a := of (.ok a)
  bind := andThen

/-- A single event. -/
def emit (e : Event) : Traced Unit := ⟨[e], .ok ()⟩

/-- Run a computation for its failures only. -/
def discard (x : Traced α) : Traced Unit := ⟨x.events, x.result.map fun _ => ()⟩

/-- The log records among the events. -/
def records (events : List Event) : List LogRecord :=
  events.filterMap fun
    | .logged record => some record
    | _ => none

/-! ## Laws -/

theorem result_bind (x : Traced α) (f : α → Traced β) : (x >>= f).result = x.result >>= fun a => (f a).result := by
  show (x.andThen f).result = _
  unfold andThen
  cases x.result <;> rfl

theorem bind_of_ok {x : Traced α} {a : α} (h : x.result = .ok a) (f : α → Traced β) :
    x >>= f = ⟨x.events ++ (f a).events, (f a).result⟩ := by
  show x.andThen f = _
  simp [andThen, h]

theorem bind_of_error {x : Traced α} {e : ResolveError} (h : x.result = .error e) (f : α → Traced β) :
    x >>= f = ⟨x.events, .error e⟩ := by
  show x.andThen f = _
  simp [andThen, h]

instance : LawfulMonad Traced := LawfulMonad.mk' Traced
  (fun x => by
    show x.andThen _ = x
    obtain ⟨events, r⟩ := x
    cases r <;> simp [andThen, of])
  (fun a f => by show (of (.ok a)).andThen f = _; simp [andThen, of])
  (fun x f g => by
    show (x.andThen f).andThen g = x.andThen fun a => (f a).andThen g
    obtain ⟨events, r⟩ := x
    cases r with
    | error e => rfl
    | ok a => cases h : (f a).result <;> simp [andThen, h])

end Traced

end IndexOptions
