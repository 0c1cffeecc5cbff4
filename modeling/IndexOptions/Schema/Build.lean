import IndexOptions.Document.Reader
import IndexOptions.Identity
import IndexOptions.Schema.Basic

/-!
# Building a schema

A schema is built from a JSON text (`Schema.build`) and then checked against the columns of a table
(`Schema.checkColumns`): each column that a field reads has to be there, with a type that the mapper supports. The
first field with a fault, and the first column within it, are reported.
-/

namespace IndexOptions

/-- Why a text is no schema, or a schema does not fit a table. -/
inductive SchemaError where
  | unparseable (place : Document.Malformed)
  | notObject (kind : Text)
  | invalid (problems : List Problem)
  | noColumn (column field : Text)
  | unsupported (tag field type column : Text)
deriving Repr

def SchemaError.message : SchemaError → Text
  | unparseable place =>
    "Unparseable JSON schema: " ++ place.fault.message ++ " at line " ++ Text.ofNat place.line ++ " column " ++
      Text.ofNat place.column
  | notObject kind => "JSON schema must be an object, got " ++ kind
  | invalid problems => Text.join "; " (problems.map Problem.line)
  | noColumn column field => "No column definition '" ++ column ++ "' for mapper '" ++ field ++ "'"
  | unsupported tag field type column =>
    "'" ++ tag ++ "' mapper '" ++ field ++ "' does not support type '" ++ type ++ "' of column '" ++ column ++ "'"

/-- Why work on behalf of an option failed: the schema is at fault, a limit of the document reader was met, or a
builder of the caller's gave up for a reason of its own. -/
inductive Failure where
  | schema (error : SchemaError)
  | tooManyDigits (count : Nat)
  | tooDeep (container : Document.Container)
  | other (kind message : Text)
deriving Repr

namespace Failure

/-- The name of the class of failures. -/
def kind : Failure → Text
  | schema _ => "SchemaError"
  | tooManyDigits _ => "ValueError"
  | tooDeep _ => "RecursionError"
  | other kind _ => kind

def message : Failure → Text
  | schema error => error.message
  | tooManyDigits count => Document.tooManyDigitsMessage count
  | tooDeep container => Document.tooDeepMessage container
  | other _ message => message

end Failure

namespace Schema

/-- The object that a schema text holds, if its containers nest at most `depth` deep. -/
def decode (depth : Nat) (t : Text) : Except Failure (Entries Document) :=
  match Document.read depth t with
  | .ok (.object members) => .ok members
  | .ok v => .error (.schema (.notObject v.kind))
  | .error (.malformed place) => .error (.schema (.unparseable place))
  | .error (.tooDeep container) => .error (.tooDeep container)
  | .error (.tooManyDigits count) => .error (.tooManyDigits count)

/-- The schema of a decoded object. -/
def ofObject (members : Entries Document) : Except Failure Schema :=
  (ofMembers members).mapError fun ps => .schema (.invalid ps)

def build (depth : Nat) (t : Text) : Except Failure Schema := do ofObject (← decode depth t)

/-! ## Columns -/

/-- Each column that a field reads, with the name of the field and its mapper. -/
def reads (s : Schema) : List (Text × Mapper × Text) :=
  s.fields.flatMap fun (field, mapper) => (mapper.columns field).map fun column => (field, mapper, column)

/-- The fault of a column that a field reads, if the table does not supply it. -/
def columnFault? (t : Table) (field : Text) (mapper : Mapper) (column : Text) : Option SchemaError :=
  match t.columnType? column with
  | none => some (.noColumn column field)
  | some type => if mapper.supports type then none else some (.unsupported mapper.tag field type column)

def checkColumns (s : Schema) (t : Table) : Except Failure Unit :=
  match s.reads.findSome? fun (field, mapper, column) => columnFault? t field mapper column with
  | some error => .error (.schema error)
  | none => .ok ()

end Schema

end IndexOptions
