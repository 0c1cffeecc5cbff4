import IndexOptions.Schema.Analyzer
import IndexOptions.Reading.Number
import IndexOptions.ColumnType.Basic

/-!
# Mappers

How a field of an index is fed from the columns of a table: from one column, which is the one of the field's own name
unless another is given, or from a latitude and a longitude column. Each mapper supports some types of columns
(`Mapper.supports`), looked at by their base type.
-/

namespace IndexOptions

/-- The types of fields that have no properties but a source column. -/
inductive PlainType where
  | integer
  | bigint
  | float
  | double
  | boolean
  | uuid
  | inet
  | blob
deriving DecidableEq, Repr

/-- What feeds a field, with the properties of its type. -/
inductive Mapping where
  | string (column : Option Text) (caseSensitive : Bool)
  | text (column : Option Text) (analyzer : Option Text)
  | date (column : Option Text) (pattern : Text)
  | plain (type : PlainType) (column : Option Text)
  | geoPoint (latitude longitude : Text) (maxLevels : Int)
deriving DecidableEq, Repr

/-- A mapping, and whether writes are rejected whose value cannot be indexed. -/
structure Mapper where
  validated : Bool
  mapping : Mapping
deriving DecidableEq, Repr

/-! ## Tags and supported types -/

namespace PlainType

def tag : PlainType → Text
  | integer => "integer"
  | bigint => "bigint"
  | float => "float"
  | double => "double"
  | boolean => "boolean"
  | uuid => "uuid"
  | inet => "inet"
  | blob => "blob"

def all : List PlainType := [integer, bigint, float, double, boolean, uuid, inet, blob]

/-- The type with a tag. -/
def ofTag? (t : Text) : Option PlainType := all.find? fun p => p.tag = t

end PlainType

namespace Mapper

def textualTypes : List Text := ["ascii", "text", "varchar"]

def numericTypes : List Text := ["tinyint", "smallint", "int", "bigint", "varint", "float", "double", "decimal"]

def dateTypes : List Text := ["date", "timestamp", "timeuuid"]

/-- The pattern of dates that have none of their own. -/
def defaultPattern : Text := "yyyy/MM/dd HH:mm:ss.SSS Z"

/-- The tags of all mappers. -/
def tags : List Text :=
  ["string", "text", "integer", "bigint", "float", "double", "boolean", "date", "uuid", "inet", "blob", "geo_point"]

def tag (m : Mapper) : Text :=
  match m.mapping with
  | .string _ _ => "string"
  | .text _ _ => "text"
  | .date _ _ => "date"
  | .plain type _ => type.tag
  | .geoPoint _ _ _ => "geo_point"

end Mapper

/-- The base types of columns that can feed a field of the type. -/
def PlainType.supportedTypes : PlainType → List Text
  | integer | bigint | float | double => Mapper.numericTypes ++ Mapper.textualTypes
  | boolean => "boolean" :: Mapper.textualTypes
  | uuid => "uuid" :: "timeuuid" :: Mapper.textualTypes
  | inet => "inet" :: Mapper.textualTypes
  | blob => "blob" :: Mapper.textualTypes

namespace Mapper

def supportedTypes (m : Mapper) : List Text :=
  match m.mapping with
  | .string _ _ => "boolean" :: "inet" :: "uuid" :: (textualTypes ++ numericTypes ++ dateTypes)
  | .text _ _ => textualTypes
  | .date _ _ => "int" :: "bigint" :: (dateTypes ++ textualTypes)
  | .plain type _ => type.supportedTypes
  | .geoPoint _ _ _ => numericTypes ++ textualTypes

def supports (m : Mapper) (type : Text) : Bool := m.supportedTypes.contains (ColumnType.base type)

/-- The columns that feed a field of the given name, in order. -/
def columns (m : Mapper) (field : Text) : List Text :=
  match m.mapping with
  | .string column _ | .text column _ | .date column _ | .plain _ column => [column.getD field]
  | .geoPoint latitude longitude _ => [latitude, longitude]

/-- The analyzer that the mapper names. -/
def analyzer? (m : Mapper) : Option Text :=
  match m.mapping with
  | .text _ analyzer => analyzer
  | _ => none

/-! ## Reading and writing -/

open Reading (requiredField optionalField nullable closed encodableNames)

/-- Whether writes are rejected, for the members of any mapper. -/
def readValidated (members : Entries Document) : Checked Bool := optionalField members "validated" false Reading.flag

/-- The source column, for the members of a mapper that is fed from one column. -/
def readColumn (members : Entries Document) : Checked (Option Text) :=
  optionalField members "column" none (nullable Reading.name)

/-- A mapper with one source column and one property of its own, for its members. -/
def ofMembersWith {α : Type} (members : Entries Document) (property : Text) (read : Checked α)
    (make : Option Text → α → Mapping) : Checked Mapper :=
  ((readValidated members).and ((readColumn members).and (read.and
    (closed ["type", "validated", "column", property] members)))).map fun (validated, column, value, _) =>
      ⟨validated, make column value⟩

/-- A mapper with no properties but its source column, for its members. -/
def plainOfMembers (type : PlainType) (members : Entries Document) : Checked Mapper :=
  ((readValidated members).and ((readColumn members).and (closed ["type", "validated", "column"] members))).map
    fun (validated, column, _) => ⟨validated, .plain type column⟩

/-- A mapper with two source columns, for its members. -/
def geoPointOfMembers (members : Entries Document) : Checked Mapper :=
  ((readValidated members).and ((requiredField members "latitude" Reading.name).and
    ((requiredField members "longitude" Reading.name).and
      ((optionalField members "max_levels" 11 (Reading.integerBetween 1 24)).and
        (closed ["type", "validated", "latitude", "longitude", "max_levels"] members))))).map
    fun (validated, latitude, longitude, maxLevels, _) => ⟨validated, .geoPoint latitude longitude maxLevels⟩

/-- The mapper of the members of an object with a known tag. -/
def ofMembers (tag : Text) (members : Entries Document) : Checked Mapper := do
  encodableNames members
  if tag = "string" then
    ofMembersWith members "case_sensitive" (optionalField members "case_sensitive" true Reading.flag) .string
  else if tag = "text" then
    ofMembersWith members "analyzer" (optionalField members "analyzer" none (nullable Reading.name)) .text
  else if tag = "date" then
    ofMembersWith members "pattern" (optionalField members "pattern" defaultPattern Reading.name) .date
  else
    match PlainType.ofTag? tag with
    | some type => plainOfMembers type members
    | none => geoPointOfMembers members

def read (v : Document) : Checked Mapper := do
  let (tag, members) ← Reading.tagged tags v
  Checked.under (.key tag) (ofMembers tag members)

/-- The properties of a mapping, by name. -/
def properties : Mapping → Entries Document
  | .string column caseSensitive => [("column", Document.ofText? column), ("case_sensitive", .bool caseSensitive)]
  | .text column analyzer => [("column", Document.ofText? column), ("analyzer", Document.ofText? analyzer)]
  | .date column pattern => [("column", Document.ofText? column), ("pattern", .text pattern)]
  | .plain _ column => [("column", Document.ofText? column)]
  | .geoPoint latitude longitude maxLevels =>
    [("latitude", .text latitude), ("longitude", .text longitude), ("max_levels", .integer maxLevels)]

/-- The document with all properties of a mapper. -/
def toDocument (m : Mapper) : Document :=
  .object (("type", .text m.tag) :: ("validated", .bool m.validated) :: properties m.mapping)

end Mapper

end IndexOptions
