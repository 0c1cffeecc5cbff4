import IndexOptions.Reading.Basic
import IndexOptions.Uuid.Reader

/-!
# Tables, indexes and their identities

- An indexed table: where it lives, its identifier, and its columns with the texts of their types. A table without an
  identifier of its own gets the one derived from its keyspace and name (`Table.derivedId`), so that the same table
  always has the same data directory.
- A search index that is declared on a table: its name and the options as its operator wrote them.
- Whether one of them is known. A caller may hand in nothing at all, the marker for an unknown one, the thing itself, or
  the thing marked as known; `Given.identity` brings these forms together.

A document for a table or an index is an object; members without a meaning are ignored. Without an identifier, or with a
null one, the derived identifier of a table is filled in as soon as keyspace and name are texts, before they are checked
any further.
-/

namespace IndexOptions

open Reading (requiredField optionalField)

/-! ## Tables -/

structure Table where
  keyspace : Text
  name : Text
  id : Uuid
  columns : Entries Text
deriving DecidableEq, Repr

namespace Table

/-- The type of a column, if the table has it. -/
def columnType? (t : Table) (column : Text) : Option Text := t.columns.get? column

/-- The keyspace and the name with a point between them. -/
def qualified (keyspace name : Text) : Text := keyspace ++ "." ++ name

/-- The namespace of derived identifiers. -/
def idSpace : Uuid := Uuid.ofNat 0x8f6b3a523c1e5d0a9e4b6f2d1c7a9b30

/-- The identifier of the table with a keyspace and a name that have a UTF-8 form; otherwise the first run of
surrogate halves in the qualified name. -/
def derivedId (keyspace name : Text) : Except Text.UnencodableRun Uuid :=
  (qualified keyspace name).encode.map (Uuid.ofName idSpace)

/-- Equality up to the order of the columns. -/
def same (t u : Table) : Bool :=
  t.keyspace = u.keyspace && t.name = u.name && t.id = u.id && t.columns.equivBy (fun a b => a = b) u.columns

/-- An identifier given as a text. -/
def readId : Document → Checked Uuid
  | .text t =>
    if !t.isEncodable then Checked.refuse .notUnicode (.text t)
    else
      match Uuid.parse t with
      | .ok u => .ok u
      | .error fault => Checked.refuse (.malformedUuid fault) (.text t)
  | v => Checked.refuse .notUuid v

/-- The identifier to fill in for a missing or null one. -/
def filledId (members : Entries Document) : Checked (Option Uuid) :=
  match members.get? "id" with
  | none | some .null =>
    match members.get? "keyspace", members.get? "name" with
    | some (.text keyspace), some (.text name) =>
      match derivedId keyspace name with
      | .ok u => .ok (some u)
      | .error run => Checked.refuse (.refused run.message) (.object members)
    | _, _ => .ok none
  | some _ => .ok none

/-- The table of the members of an object. -/
def ofMembers (members : Entries Document) : Checked Table := do
  let filled ← filledId members
  let id : Checked Uuid :=
    match filled with
    | some u => .ok u
    | none => requiredField members "id" readId
  let parts := (requiredField members "keyspace" Reading.name).and
    ((requiredField members "name" Reading.name).and
      (id.and (optionalField members "columns" [] Reading.textMap)))
  let (keyspace, name, id, columns) ← parts
  return ⟨keyspace, name, id, columns⟩

/-- A table; a value that is no object is refused for the given cause. -/
def read (otherwise : Cause) : Document → Checked Table
  | .object members => ofMembers members
  | v => Checked.refuse otherwise v

/-- The cause for a value that is no object where a table stands alone. -/
def notTable : Cause := .notRecord "TableMetadata"

/-- The document with all parts of a table. -/
def toDocument (t : Table) : Document :=
  .object [("keyspace", .text t.keyspace), ("name", .text t.name), ("id", .text t.id.text),
    ("columns", .object (t.columns.map fun (column, type) => (column, .text type)))]

end Table

/-! ## Indexes -/

structure Index where
  name : Text
  options : Entries Text
deriving DecidableEq, Repr

namespace Index

/-- The index of the members of an object. -/
def ofMembers (members : Entries Document) : Checked Index :=
  ((requiredField members "name" Reading.name).and (optionalField members "options" [] Reading.textMap)).map
    fun (name, options) => ⟨name, options⟩

def read : Document → Checked Index
  | .object members => ofMembers members
  | v => Checked.refuse (.notRecord "IndexMetadata") v

/-- Equality up to the order of the options. -/
def same (i j : Index) : Bool := i.name = j.name && i.options.equivBy (fun a b => a = b) j.options

def toDocument (i : Index) : Document :=
  .object [("name", .text i.name), ("options", .object (i.options.map fun (key, value) => (key, .text value)))]

end Index

/-! ## Identities that may be missing -/

inductive Identity (α : Type) where
  | unknown
  | known (value : α)
deriving DecidableEq, Repr

/-- The forms in which an identity is handed in. -/
inductive Given (α : Type) where
  | absent
  | unknown
  | bare (value : α)
  | known (value : α)
deriving DecidableEq, Repr

namespace Given

variable {α : Type}

def identity : Given α → Identity α
  | absent | unknown => .unknown
  | bare value | known value => .known value

/-- Whether the form is an identity already, so that nothing has to be wrapped. -/
def isIdentity : Given α → Bool
  | unknown | known _ => true
  | absent | bare _ => false

end Given

end IndexOptions
