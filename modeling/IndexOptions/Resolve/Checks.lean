import IndexOptions.Config.Basic
import IndexOptions.Directories.Basic
import IndexOptions.Identity
import IndexOptions.Options.Values
import IndexOptions.Resolve.Trace

/-!
# Checking options

The checks behind all ways to look at options. They run in a fixed order: the six numbers, the data centers, the
directory and the schema. `values` stops at the first rejected option and otherwise gives the configuration, and
`attempts` lists the same checks one by one.

A directory that is given as an option is taken as it is, and the directory service is not asked. Otherwise the index
lives below the base directory of its table, if table and index are known.
-/

namespace IndexOptions

/-- Who builds a schema from a text and checks it against a table. -/
structure Builder (σ : Type) where
  build : Text → Except Failure σ
  check : σ → Table → Except Failure Unit

/-- The builder of schemas from texts that nest at most `depth` deep. -/
def Schema.builder (depth : Nat) : Builder Schema := ⟨Schema.build depth, Schema.checkColumns⟩

/-- The directory service: the base directory of a table. -/
abbrev Naming := Table → Except ResolveError Path

/-- The directory service over a data directory. -/
def Directories.naming (d : Directories) : Naming := fun t => .ok (d.baseFor t)

namespace OptionMap

variable {σ : Type}

/-! ## Directory and schema -/

/-- The directory of the index; without table and index, and without the option, there is none. -/
def path (options : OptionMap) (table : Identity Table) (index : Identity Index) (naming : Naming) :
    Traced (Option Path) :=
  match options.raw .directoryPath with
  | some raw => pure (some (Path.parse raw))
  | none =>
    match table, index with
    | .known t, .known i => do
      Traced.emit (.asked t)
      let base ← Traced.of (naming t)
      return some (Directories.indexPath base i.name)
    | _, _ => pure none

/-- Pass a failure of the builder on as a rejection of the schema. -/
def invalidSchema {α : Type} (x : Except Failure α) : Traced α :=
  Traced.of (x.mapError fun failure => .rejected ⟨.schema, .invalid failure⟩)

/-- The schema, which has to be given; it is checked against the columns of the table if that is known. -/
def schema (options : OptionMap) (table : Identity Table) (builder : Builder σ) : Traced σ :=
  match (options.raw .schema).filter fun raw => !raw.trim.isEmpty with
  | none => Traced.of (reject .schema .required)
  | some raw => do
    Traced.emit (.built raw)
    let s ← invalidSchema (builder.build raw)
    match table with
    | .unknown => pure s
    | .known t =>
      Traced.emit (.checked t)
      invalidSchema (builder.check s t)
      return s

/-! ## All checks -/

/-- The values of all options, up to the first one that is rejected. -/
def values (options : OptionMap) (table : Identity Table) (index : Identity Index) (naming : Naming)
    (builder : Builder σ) : Traced (Config σ) := do
  let refreshSeconds ← Traced.of options.refreshSeconds
  let ramBufferMb ← Traced.of options.ramBufferMb
  let maxMergeMb ← Traced.of options.maxMergeMb
  let maxCachedMb ← Traced.of options.maxCachedMb
  let indexingThreads ← Traced.of options.indexingThreads
  let indexingQueuesSize ← Traced.of options.indexingQueuesSize
  let excludedDataCenters := options.excludedDataCenters
  let path ← options.path table index naming
  let schema ← options.schema table builder
  return { schema, path, refreshSeconds, ramBufferMb, maxMergeMb, maxCachedMb, indexingThreads, indexingQueuesSize,
           excludedDataCenters }

/-- The checks one by one, each run for its failure only. -/
def attempts (options : OptionMap) (table : Identity Table) (index : Identity Index) (naming : Naming)
    (builder : Builder σ) : List (Traced Unit) :=
  [(Traced.of options.refreshSeconds).discard, (Traced.of options.ramBufferMb).discard,
    (Traced.of options.maxMergeMb).discard, (Traced.of options.maxCachedMb).discard,
    (Traced.of options.indexingThreads).discard, (Traced.of options.indexingQueuesSize).discard,
    (options.path table index naming).discard, (options.schema table builder).discard]

end OptionMap

end IndexOptions
