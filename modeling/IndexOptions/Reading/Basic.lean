import IndexOptions.Document.Writer
import IndexOptions.Problem.Checked
import IndexOptions.Text.Utf8

/-!
# Reading texts and records

- Texts, texts within bounds of length, and containers of texts. A text with a bound on its length has to have a UTF-8
  form; other texts may hold lone surrogate halves.
- The members of an object as the fields of a record: a required field has to be there, an optional one has a default,
  and a closed record has no other members.
- An object whose member `type` holds a tag that says how the other members are to be read (`tagged`).
-/

namespace IndexOptions.Reading

/-! ## Texts -/

open Checked (refuse)

def text : Document → Checked Text
  | .text t => .ok t
  | v => refuse .notText v

/-- A text of `least` to `most` code points. -/
def boundedText (least : Nat) (most : Option Nat) : Document → Checked Text
  | .text t =>
    if !t.isEncodable then refuse .notUnicode (.text t)
    else if t.length < least then refuse (.tooShort least) (.text t)
    else
      match most with
      | some most => if most < t.length then refuse (.tooLong most) (.text t) else .ok t
      | none => .ok t
  | v => refuse .notText v

/-- A text of at least one code point. -/
def name : Document → Checked Text := boundedText 1 none

/-- A value that may be null. -/
def nullable {α : Type} (read : Document → Checked α) : Document → Checked (Option α)
  | .null => .ok none
  | v => (read v).map some

/-- An object with a text under every name. -/
def textMap : Document → Checked (Entries Text)
  | .object es => Checked.all (es.map fun (name, v) => Checked.under (.key name) ((text v).map fun t => (name, t)))
  | v => refuse .notObject v

/-- The texts of an array; `i` counts the items before. -/
def textsFrom : (i : Nat) → List Document → List (Checked Text)
  | _, [] => []
  | i, v :: vs => (text v).under (.index i) :: textsFrom (i + 1) vs

def textList : Document → Checked (List Text)
  | .array vs => Checked.all (textsFrom 0 vs)
  | v => refuse .notArray v

/-! ## Records -/

variable {α : Type}

/-- The value of a field that has to be there; `members` are the members of the object. -/
def requiredField (members : Entries Document) (field : Text) (read : Document → Checked α) : Checked α :=
  match members.get? field with
  | some v => (read v).under (.key field)
  | none => .error [⟨.missing, [.key field], .object members⟩]

/-- The value of a field, or its default. -/
def optionalField (members : Entries Document) (field : Text) (default : α) (read : Document → Checked α) : Checked α :=
  match members.get? field with
  | some v => (read v).under (.key field)
  | none => .ok default

/-- The members with a name outside of the declared ones, each of them a problem. -/
def undeclared (declared : List Text) (members : Entries Document) : List Problem :=
  (members.filter fun e => !declared.contains e.1).map fun (name, v) => ⟨.undeclared, [.key name], v⟩

/-- No members but the declared ones. -/
def closed (declared : List Text) (members : Entries Document) : Checked Unit :=
  match undeclared declared members with
  | [] => .ok ()
  | ps => .error ps

/-- The names of a closed record all have a UTF-8 form; otherwise this is the only problem that is reported. -/
def encodableNames (members : Entries Document) : Checked Unit :=
  if members.keys.all Text.isEncodable then .ok () else .error [⟨.notUnicode, [], .object members⟩]

/-! ## Tags -/

/-- The members of an object with its tag, which has to be one of those expected. Surrogate halves in an unknown tag are
shown as replacement characters. -/
def tagged (expected : List Text) : Document → Checked (Text × Entries Document)
  | .object members =>
    match Entries.get? members "type" with
    | none => refuse .tagMissing (.object members)
    | some (.text t) =>
      if expected.contains t then .ok (t, members)
      else refuse (.tagUnknown t.replaced expected) (.object members)
    | some v => refuse (.tagUnknown v.shown expected) (.object members)
  | v => refuse .noFields v

end IndexOptions.Reading
