import IndexOptions.Text.Split

/-!
# Paths

A path in normal form: its root and its components. Repeated slashes, slashes at the end and components `.` carry no
meaning and are dropped; `..` is a component like any other. Exactly two slashes at the beginning are a root of their
own.
-/

namespace IndexOptions

inductive Path.Root where
  | none
  | slash
  | twoSlashes
deriving DecidableEq, Repr

structure Path where
  root : Path.Root
  parts : List Text
deriving DecidableEq, Repr

namespace Path

def Root.text : Root → Text
  | none => []
  | slash => "/"
  | twoSlashes => "//"

/-- The root that a number of slashes at the beginning stands for. -/
def Root.ofSlashes (n : Nat) : Root := if n = 0 then .none else if n = 2 then .twoSlashes else .slash

/-- A component that names something. -/
def isComponent (t : Text) : Bool := !t.isEmpty && t ≠ "."

def parse (t : Text) : Path where
  root := Root.ofSlashes (t.takeWhile fun (c : CodePoint) => c = '/').length
  parts := (Text.splitOn '/' t).filter isComponent

/-- Go on from a path along another one; a rooted path starts anew. -/
def join (p q : Path) : Path := if q.root = .none then ⟨p.root, p.parts ++ q.parts⟩ else q

/-- The text in normal form; the empty path is a point. -/
def text (p : Path) : Text :=
  let t := p.root.text ++ Text.join "/" p.parts
  if t.isEmpty then "." else t

end Path

end IndexOptions
