import IndexOptions.Identity
import IndexOptions.Path.Basic

/-!
# Data directories

Where the files of a table live: under the data directory, the keyspace, and the name of the table with the digits of
its identifier. Only names are made; nothing is created or looked up.
-/

namespace IndexOptions

/-- The directory that relative paths go on from. Its path is absolute and in normal form, and its components have a
UTF-8 form. -/
structure WorkingDirectory where
  path : Path
  is_absolute : path.root ≠ .none
  is_normal : ∀ c ∈ path.parts, Path.isComponent c ∧ CodePoint.ofChar '/' ∉ c
  is_encodable : ∀ c ∈ path.parts, c.isEncodable
deriving DecidableEq, Repr

/-- The root directory. -/
def WorkingDirectory.root : WorkingDirectory := ⟨⟨.slash, []⟩, by decide, by simp, by simp⟩

structure Directories where
  data : Path
deriving DecidableEq, Repr

namespace Directories

/-- The directories under a data directory; a relative one counts from the working directory. -/
def ofText (working : Path) (t : Text) : Directories := ⟨working.join (Path.parse t)⟩

/-- The last component for a table: its name and the digits of its identifier. -/
def tableComponent (t : Table) : Text := t.name ++ "-" ++ t.id.hex

def baseFor (d : Directories) (t : Table) : Path :=
  (d.data.join (Path.parse t.keyspace)).join (Path.parse (tableComponent t))

/-- The sub-directory of a table that holds its search indexes. -/
def indexesComponent : Text := "lucene"

/-- The directory of an index below the base directory of its table. -/
def indexPath (base : Path) (indexName : Text) : Path :=
  (base.join (Path.parse indexesComponent)).join (Path.parse indexName)

end Directories

end IndexOptions
