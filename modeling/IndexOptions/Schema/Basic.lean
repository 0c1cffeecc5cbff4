import IndexOptions.Schema.Mapper
import IndexOptions.Text.Basic
import IndexOptions.Text.Quoted

/-!
# Schemas

A schema maps fields of an index to columns of a table and names the analyzers that the fields use. A schema document
is an object with members `default_analyzer`, `analyzers` and `fields`; once its parts are read, every analyzer that
is named has to be prebuilt or declared.
-/

namespace IndexOptions

structure Schema where
  defaultAnalyzer : Text
  analyzers : Entries Analyzer
  fields : Entries Mapper
deriving DecidableEq, Repr

namespace Schema

open Reading (requiredField optionalField closed encodableNames)

/-- The columns that feed at least one field, in order and each once. -/
def mappedColumns (s : Schema) : List Text :=
  Text.sortedSet (s.fields.flatMap fun (field, mapper) => mapper.columns field)

/-! ## Analyzer references -/

/-- Whether a schema may name an analyzer. -/
def knows (s : Schema) (analyzer : Text) : Bool := Analyzer.prebuilt.contains analyzer || s.analyzers.has analyzer

/-- The first field that names an unknown analyzer, with that analyzer. -/
def unknownReference? (s : Schema) : Option (Text × Text) :=
  s.fields.findSome? fun (field, mapper) =>
    mapper.analyzer?.bind fun analyzer => if s.knows analyzer then none else some (field, analyzer)

/-- Refuse a schema that names an unknown analyzer; `whole` is the document that the schema was read from. -/
def checkReferences (whole : Document) (s : Schema) : Checked Schema :=
  if !s.knows s.defaultAnalyzer then
    Checked.refuse (.refused ("Unknown default analyzer " ++ s.defaultAnalyzer.quoted)) whole
  else
    match s.unknownReference? with
    | some (field, analyzer) =>
      Checked.refuse (.refused ("Unknown analyzer " ++ analyzer.quoted ++ " in mapper " ++ field.quoted)) whole
    | none => .ok s

/-! ## Reading and writing -/

/-- The members of an object, each read by the same reader. -/
def readEntries {α : Type} (read : Document → Checked α) (members : Entries Document) : Checked (Entries α) :=
  Checked.all (members.map fun (name, v) => Checked.under (.key name) ((read v).map fun a => (name, a)))

def readAnalyzers : Document → Checked (Entries Analyzer)
  | .object members => readEntries Analyzer.read members
  | v => Checked.refuse .notObject v

/-- The fields of a schema, at least one. -/
def readFields : Document → Checked (Entries Mapper)
  | .object [] => Checked.refuse .noMembers (.object [])
  | .object members => readEntries Mapper.read members
  | v => Checked.refuse .notObject v

/-- The parts of a schema, before its references are checked. -/
def readParts (members : Entries Document) : Checked Schema := do
  encodableNames members
  ((optionalField members "default_analyzer" ("standard" : Text) Reading.name).and
    ((optionalField members "analyzers" [] readAnalyzers).and ((requiredField members "fields" readFields).and
      (closed ["default_analyzer", "analyzers", "fields"] members)))).map
    fun (defaultAnalyzer, analyzers, fields, _) => ⟨defaultAnalyzer, analyzers, fields⟩

/-- The schema of the members of an object. -/
def ofMembers (members : Entries Document) : Checked Schema := do
  checkReferences (.object members) (← readParts members)

/-- The document with all parts of a schema. -/
def toDocument (s : Schema) : Document :=
  .object [("default_analyzer", .text s.defaultAnalyzer),
    ("analyzers", .object (s.analyzers.map fun (name, a) => (name, a.toDocument))),
    ("fields", .object (s.fields.map fun (name, m) => (name, m.toDocument)))]

/-- Equality up to the order of analyzers and fields. -/
def same (s t : Schema) : Bool :=
  s.defaultAnalyzer = t.defaultAnalyzer && s.analyzers.equivBy (fun a b => a = b) t.analyzers &&
    s.fields.equivBy (fun a b => a = b) t.fields

end Schema

end IndexOptions
