import IndexOptions.Entries
import IndexOptions.Number.Double

/-!
# Documents

The values of a JSON text. The members of an object stand in the order of their first writing and have distinct
names, as `Entries.put` keeps them; integers have no bound, and other numbers are doubles.
-/

namespace IndexOptions

inductive Document where
  | null
  | bool (value : Bool)
  | integer (value : Int)
  | real (value : Double)
  | text (value : Text)
  | array (items : List Document)
  | object (members : List (Text × Document))
deriving Repr, Inhabited

namespace Document

/-- The name of the kind of a document, as messages give it. -/
def kind : Document → Text
  | null => "NoneType"
  | bool _ => "bool"
  | integer _ => "int"
  | real _ => "float"
  | text _ => "str"
  | array _ => "list"
  | object _ => "dict"

def texts (ts : List Text) : Document := .array (ts.map .text)

def ofText? : Option Text → Document
  | some t => .text t
  | none => .null

end Document

end IndexOptions
