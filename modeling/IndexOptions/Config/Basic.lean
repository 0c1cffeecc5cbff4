import IndexOptions.Path.Basic
import IndexOptions.Reading.Basic
import IndexOptions.Reading.Number

/-!
# Configurations

The configuration of one search index, over the type of its schema. `Config.checked` lets only those pass whose numbers
are within their bounds, `Config.ofMembers` reads one from the members of an object, and `Config.describe` tells
everything but the schema.
-/

namespace IndexOptions

structure Config (σ : Type) where
  schema : σ
  path : Option Path
  refreshSeconds : Double
  ramBufferMb : Int
  maxMergeMb : Int
  maxCachedMb : Int
  indexingThreads : Int
  indexingQueuesSize : Int
  excludedDataCenters : List Text
deriving DecidableEq, Repr

namespace Config

open Reading (requiredField optionalField)

variable {σ : Type}

/-- An integer field that has to be positive. -/
def positive (field : Text) (i : Int) : Checked Int := Checked.under (.key field) (Reading.positiveInteger (.integer i))

/-- The configuration itself if its numbers are within their bounds. -/
def checked (c : Config σ) : Checked (Config σ) :=
  ((Checked.under (.key "refresh_seconds") (Reading.positiveNumber (.real c.refreshSeconds))).and
    ((positive "ram_buffer_mb" c.ramBufferMb).and ((positive "max_merge_mb" c.maxMergeMb).and
      ((positive "max_cached_mb" c.maxCachedMb).and (positive "indexing_queues_size" c.indexingQueuesSize))))).map
    fun (refreshSeconds, ramBufferMb, maxMergeMb, maxCachedMb, indexingQueuesSize) =>
      { c with refreshSeconds, ramBufferMb, maxMergeMb, maxCachedMb, indexingQueuesSize }

/-- A path given as a text. -/
def readPath : Document → Checked Path
  | .text t => .ok (Path.parse t)
  | v => Checked.refuse .notPath v

/-- The schema of a configuration: one that was built before, or a problem. -/
def readSchema (schema : Option σ) (members : Entries Document) : Checked σ :=
  match schema with
  | some s => .ok s
  | none => requiredField members "index_schema" (Checked.refuse .notSchema)

/-- The configuration of the members of an object, with a schema that was built before. -/
def ofMembers (schema : Option σ) (members : Entries Document) : Checked (Config σ) :=
  let count (field : Text) : Checked Int := requiredField members field Reading.positiveInteger
  ((readSchema schema members).and ((optionalField members "path" none (Reading.nullable readPath)).and
    ((requiredField members "refresh_seconds" Reading.positiveNumber).and ((count "ram_buffer_mb").and
      ((count "max_merge_mb").and ((count "max_cached_mb").and
        ((requiredField members "indexing_threads" Reading.integer).and ((count "indexing_queues_size").and
          (optionalField members "excluded_data_centers" [] Reading.textList))))))))).map
    fun (schema, path, refreshSeconds, ramBufferMb, maxMergeMb, maxCachedMb, indexingThreads, indexingQueuesSize,
        excludedDataCenters) =>
      { schema, path, refreshSeconds, ramBufferMb, maxMergeMb, maxCachedMb, indexingThreads, indexingQueuesSize,
        excludedDataCenters }

/-- A configuration; `schema` is the one that was built before. -/
def read (schema : Option σ) : Document → Checked (Config σ)
  | .object members => ofMembers schema members
  | v => Checked.refuse (.notRecord "IndexConfig") v

/-- Everything but the schema. -/
def describe (c : Config σ) : Entries Document :=
  [("refresh_seconds", .real c.refreshSeconds), ("ram_buffer_mb", .integer c.ramBufferMb),
    ("max_merge_mb", .integer c.maxMergeMb), ("max_cached_mb", .integer c.maxCachedMb),
    ("indexing_threads", .integer c.indexingThreads), ("indexing_queues_size", .integer c.indexingQueuesSize),
    ("excluded_data_centers", Document.texts c.excludedDataCenters),
    ("path", Document.ofText? (c.path.map Path.text))]

/-- Equality of the fields, given equality of schemas. -/
def sameBy (same : σ → σ → Bool) (c d : Config σ) : Bool :=
  same c.schema d.schema && c.path = d.path && c.refreshSeconds.sameNumber d.refreshSeconds &&
    c.ramBufferMb = d.ramBufferMb && c.maxMergeMb = d.maxMergeMb && c.maxCachedMb = d.maxCachedMb &&
    c.indexingThreads = d.indexingThreads && c.indexingQueuesSize = d.indexingQueuesSize &&
    c.excludedDataCenters = d.excludedDataCenters

end Config

end IndexOptions
