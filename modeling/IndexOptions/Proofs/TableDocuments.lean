import IndexOptions.Identity
import IndexOptions.Proofs.Encodable
import IndexOptions.Proofs.Identifiers

/-!
# Tables and their documents

Reading a table document gives exactly the table that it describes (`Table.Describes`): keyspace and name as they are
written, the columns, and an identifier that is the written one if there is one and otherwise the one derived from
keyspace and name (`Table.ofMembers_eq_ok_iff`).

- A table is read from its own document, and a table without an identifier of its own from the rest of it, in any order
  and among other members (`Table.documents_keep_tables`).
- The names that identifiers are derived from are the same exactly if keyspaces and names are, or cut one name at two of
  its points (`Table.qualified_eq_iff`). So are the identifiers, up to digests (`Table.derivedIds_agree_iff`).
-/

namespace IndexOptions

theorem Text.encode_of_isEncodable {t : Text} (h : t.isEncodable) : t.encode = .ok t.utf8 := by
  have hdrop : t.dropWhile (fun c => !c.isSurrogate) = [] :=
    List.dropWhile_eq_nil_iff.mpr fun c hc => by simpa using Text.isEncodable_iff.mp h c hc
  have hrun : t.unencodableRun? = none := by
    unfold unencodableRun? firstRun?
    rw [hdrop]
  rw [encode, hrun]

theorem Uuid.isEncodable_text (u : Uuid) : u.text.isEncodable := by
  rw [text_eq_join]
  refine Text.isEncodable_join (by decide) fun g hg => Text.isEncodable_of_subset ?_ (Text.isEncodable_hex 32 u.val)
  intro c hc
  show c ∈ u.hex
  rw [← flatten_groups]
  exact List.mem_flatten.mpr ⟨g, hg, hc⟩

namespace Reading

variable {α : Type} {members : Entries Document} {field : Text} {default : α} {read : Document → Checked α}
  {p : Problem}

/-- The problems with a field stand at the field. -/
theorem head?_location_of_mem_under {r : Checked α} (h : p ∈ (r.under (.key field)).problems) :
    p.location.head? = some (.key field) := by
  rw [Checked.problems_under] at h
  obtain ⟨q, -, rfl⟩ := List.mem_map.mp h
  rfl

theorem head?_location_of_mem_requiredField (h : p ∈ (requiredField members field read).problems) :
    p.location.head? = some (.key field) := by
  unfold requiredField at h
  split at h
  · exact head?_location_of_mem_under h
  · rw [List.mem_singleton.mp h]
    rfl

theorem head?_location_of_mem_optionalField (h : p ∈ (optionalField members field default read).problems) :
    p.location.head? = some (.key field) := by
  unfold optionalField at h
  split at h
  · exact head?_location_of_mem_under h
  · cases h

end Reading

namespace Table

open Reading (requiredField optionalField textMap IsName)

variable {members : Entries Document} {t : Table} {keyspace name : Text}

/-! ## Identifiers -/

theorem readId_eq_ok_iff {v : Document} {u : Uuid} :
    readId v = .ok u ↔ ∃ s, v = .text s ∧ s.isEncodable ∧ Uuid.parse s = .ok u := by
  cases v with
  | text s =>
    cases he : s.isEncodable with
    | false => simp [readId, he, Checked.refuse]
    | true => cases hp : Uuid.parse s <;> simp [readId, he, hp, Checked.refuse]
  | _ => simp [readId, Checked.refuse]

/-- The identifier that is derived from a qualified name. -/
def idOfName (qualified : Text) : Uuid := Uuid.ofName idSpace qualified.utf8

theorem derivedId_of_isEncodable (hk : keyspace.isEncodable) (hn : name.isEncodable) :
    derivedId keyspace name = .ok (idOfName (qualified keyspace name)) := by
  have hq : (qualified keyspace name).isEncodable := by
    simp [qualified, hk, hn]
  rw [derivedId, Text.encode_of_isEncodable hq]
  rfl

/-- The members have no identifier, or a null one. -/
def LacksId (members : Entries Document) : Prop := members.get? "id" = none ∨ members.get? "id" = some .null

/-- The member is there and is a text. -/
def HoldsText (members : Entries Document) (field : Text) : Prop := ∃ s, members.get? field = some (.text s)

theorem filledId_of_id (h : ¬LacksId members) : filledId members = .ok none := by
  unfold filledId
  split
  · next hnone => exact absurd (Or.inl hnone) h
  · next hnull => exact absurd (Or.inr hnull) h
  · rfl

section Texts

variable (h : LacksId members) (hk : members.get? "keyspace" = some (.text keyspace))
  (hn : members.get? "name" = some (.text name))
include h hk hn

/-- The derived identifier is filled in where keyspace and name are texts. -/
theorem filledId_of_derived {u : Uuid} (hu : derivedId keyspace name = .ok u) : filledId members = .ok (some u) := by
  unfold filledId
  rcases h with h | h
  · simp only [h, hk, hn, hu]
  · simp only [h, hk, hn, hu]

/-- Texts that no identifier is derived from are a problem of the whole document. -/
theorem filledId_of_unencodable {run : Text.UnencodableRun} (hrun : derivedId keyspace name = .error run) :
    filledId members = .error [⟨.refused run.message, [], .object members⟩] := by
  unfold filledId
  rcases h with h | h
  · simp only [h, hk, hn, hrun]
    rfl
  · simp only [h, hk, hn, hrun]
    rfl

end Texts

theorem filledId_of_not_texts (hnames : ¬(HoldsText members "keyspace" ∧ HoldsText members "name")) :
    filledId members = .ok none := by
  unfold filledId
  split
  · split
    · next k n hk hn => exact absurd ⟨⟨k, hk⟩, n, hn⟩ hnames
    · rfl
  · split
    · next k n hk hn => exact absurd ⟨⟨k, hk⟩, n, hn⟩ hnames
    · rfl
  · rfl

/-- The identifier among the members, where none is filled in. -/
def idPart (members : Entries Document) : Option Uuid → Checked Uuid
  | some u => .ok u
  | none => requiredField members "id" readId

/-- Once it is clear what to fill in, the parts are read side by side. -/
theorem ofMembers_of_filledId {filled : Option Uuid} (h : filledId members = .ok filled) :
    ofMembers members =
      ((requiredField members "keyspace" Reading.name).and ((requiredField members "name" Reading.name).and
        ((idPart members filled).and (optionalField members "columns" [] textMap)))).map
          fun (keyspace, name, id, columns) => ⟨keyspace, name, id, columns⟩ := by
  unfold ofMembers
  rw [h]
  cases filled with
  | none | some => rfl

/-! ## The table of a document -/

/-- What the members say of a table. -/
structure Describes (members : Entries Document) (t : Table) : Prop where
  keyspace : members.get? "keyspace" = some (.text t.keyspace)
  isName_keyspace : IsName t.keyspace
  name : members.get? "name" = some (.text t.name)
  isName_name : IsName t.name
  columns : optionalField members "columns" [] textMap = .ok t.columns
  derived : LacksId members → t.id = idOfName (qualified t.keyspace t.name)
  written : ¬LacksId members → ∃ s, members.get? "id" = some (.text s) ∧ s.isEncodable ∧ Uuid.parse s = .ok t.id

theorem requiredName_eq_ok_iff {field s : Text} :
    requiredField members field Reading.name = .ok s ↔ members.get? field = some (.text s) ∧ IsName s := by
  simp only [Reading.requiredField_eq_ok_iff, Reading.name_eq_ok_iff]
  constructor
  · rintro ⟨v, hv, rfl, hs⟩
    exact ⟨hv, hs⟩
  · rintro ⟨hv, hs⟩
    exact ⟨_, hv, rfl, hs⟩

theorem idPart_none_eq_ok_iff {u : Uuid} :
    idPart members none = .ok u ↔ ∃ s, members.get? "id" = some (.text s) ∧ s.isEncodable ∧ Uuid.parse s = .ok u := by
  simp only [idPart, Reading.requiredField_eq_ok_iff, readId_eq_ok_iff]
  constructor
  · rintro ⟨v, hv, s, rfl, hs⟩
    exact ⟨s, hv, hs⟩
  · rintro ⟨s, hv, hs⟩
    exact ⟨_, hv, s, rfl, hs⟩

theorem ofMembers_of_filledId_eq_ok_iff {filled : Option Uuid} (h : filledId members = .ok filled) :
    ofMembers members = .ok t ↔
      (members.get? "keyspace" = some (.text t.keyspace) ∧ IsName t.keyspace) ∧
        (members.get? "name" = some (.text t.name) ∧ IsName t.name) ∧
        idPart members filled = .ok t.id ∧ optionalField members "columns" [] textMap = .ok t.columns := by
  rw [ofMembers_of_filledId h]
  simp only [Checked.map_eq_ok_iff, Prod.exists, Checked.and_eq_ok_iff, requiredName_eq_ok_iff]
  constructor
  · rintro ⟨keyspace, name, id, columns, hparts, rfl⟩
    exact hparts
  · intro hparts
    exact ⟨t.keyspace, t.name, t.id, t.columns, hparts, rfl⟩

/-- Reading the members gives the table that they describe. -/
theorem ofMembers_eq_ok_iff : ofMembers members = .ok t ↔ Describes members t := by
  constructor
  · intro h
    obtain ⟨filled, hfilled, -⟩ := Checked.bind_eq_ok_iff.mp h
    obtain ⟨⟨hk, hk'⟩, ⟨hn, hn'⟩, hid, hcolumns⟩ := (ofMembers_of_filledId_eq_ok_iff hfilled).mp h
    refine ⟨hk, hk', hn, hn', hcolumns, fun hlacks => ?_, fun hwritten => ?_⟩
    · rw [filledId_of_derived hlacks hk hn (derivedId_of_isEncodable hk'.1 hn'.1)] at hfilled
      cases hfilled
      exact (Except.ok.inj hid).symm
    · rw [filledId_of_id hwritten] at hfilled
      cases hfilled
      exact idPart_none_eq_ok_iff.mp hid
  · intro h
    by_cases hlacks : LacksId members
    · have hfilled := filledId_of_derived hlacks h.keyspace h.name
        (derivedId_of_isEncodable h.isName_keyspace.1 h.isName_name.1)
      refine (ofMembers_of_filledId_eq_ok_iff hfilled).mpr ⟨⟨h.keyspace, h.isName_keyspace⟩,
        ⟨h.name, h.isName_name⟩, ?_, h.columns⟩
      rw [h.derived hlacks]
      rfl
    · exact (ofMembers_of_filledId_eq_ok_iff (filledId_of_id hlacks)).mpr ⟨⟨h.keyspace, h.isName_keyspace⟩,
        ⟨h.name, h.isName_name⟩, idPart_none_eq_ok_iff.mpr (h.written hlacks), h.columns⟩

theorem read_eq_ok_iff {cause : Cause} {v : Document} :
    read cause v = .ok t ↔ ∃ members, v = .object members ∧ Describes members t := by
  constructor
  · intro h
    cases v with
    | object members => exact ⟨members, rfl, ofMembers_eq_ok_iff.mp h⟩
    | _ => cases h
  · rintro ⟨members, rfl, h⟩
    exact ofMembers_eq_ok_iff.mpr h

/-! ## Writing a table -/

/-- Keyspace and name are names. -/
structure WellFormed (t : Table) : Prop where
  keyspace : IsName t.keyspace
  name : IsName t.name

/-- The members of the document with all parts of a table. -/
def written (t : Table) : Entries Document :=
  [("keyspace", .text t.keyspace), ("name", .text t.name), ("id", .text t.id.text),
    ("columns", .object (t.columns.map fun e => (e.1, .text e.2)))]

theorem describes_written (h : t.WellFormed) : Describes t.written t := by
  have hid : t.written.get? "id" = some (.text t.id.text) := by simp [written, Entries.get?_cons]
  refine ⟨by simp [written, Entries.get?_cons], h.keyspace, by simp [written, Entries.get?_cons], h.name, ?_,
    fun hlacks => ?_, fun _ => ⟨_, hid, Uuid.isEncodable_text t.id, Uuid.parse_text t.id⟩⟩
  · exact Reading.optionalField_eq_ok_iff.mpr (Or.inr ⟨_, by simp [written, Entries.get?_cons],
      Reading.textMap_eq_ok_iff.mpr rfl⟩)
  · rw [LacksId, hid] at hlacks
    simp at hlacks

theorem read_toDocument (h : t.WellFormed) (cause : Cause) : read cause t.toDocument = .ok t :=
  ofMembers_eq_ok_iff.mpr (describes_written h)

/-- The tables that are read are the well-formed ones. -/
theorem wellFormed_iff {cause : Cause} : t.WellFormed ↔ ∃ v, read cause v = .ok t := by
  constructor
  · intro h
    exact ⟨t.toDocument, read_toDocument h cause⟩
  · rintro ⟨v, hv⟩
    obtain ⟨members, -, h⟩ := read_eq_ok_iff.mp hv
    exact ⟨h.isName_keyspace, h.isName_name⟩

/-! ## Leaving the identifier out -/

/-- A null identifier may be left out. -/
theorem describes_erase_id (h : Describes members t) (hlacks : LacksId members) :
    Describes (members.erase "id") t := by
  have hkept : ∀ field : Text, field ≠ "id" → (members.erase "id").get? field = members.get? field := by
    intro field hne
    rw [Entries.get?_erase, if_neg hne]
  have hleft : LacksId (members.erase "id") := Or.inl (by rw [Entries.get?_erase, if_pos rfl])
  refine ⟨(hkept _ (by decide)).trans h.keyspace, h.isName_keyspace, (hkept _ (by decide)).trans h.name,
    h.isName_name, ?_, fun _ => h.derived hlacks, fun hid => absurd hleft hid⟩
  have hcolumns := h.columns
  rw [optionalField] at hcolumns ⊢
  rwa [hkept _ (by decide)]

/-- The other parts of a document describe the table without its identifier, in any order and among other members. -/
theorem describes_of_perm {members' extra : Entries Document} (h : Describes members t) (hlacks : LacksId members)
    (columns : Entries Text) (hperm : members'.Perm ({ t with columns }.written.erase "id" ++ extra))
    (hnodup : members'.keys.Nodup) (hextra : ∀ e ∈ extra, e.1 = "id" → e.2 = .null) :
    Describes members' { t with columns } := by
  have hget : ∀ field, members'.get? field = ({ t with columns }.written.erase "id" ++ extra).lookup field :=
    Entries.get?_of_perm hperm hnodup
  have hlacks' : LacksId members' := by
    cases hid : members'.get? "id" with
    | none => exact Or.inl hid
    | some v =>
      have hmem : (Text.ofString "id", v) ∈ { t with columns }.written.erase "id" ++ extra :=
        hperm.subset (Entries.mem_of_get? hid)
      rcases List.mem_append.mp hmem with hmem | hmem
      · simp [Entries.erase] at hmem
      · exact Or.inr (hid.trans (congrArg some (hextra _ hmem rfl)))
  refine ⟨?_, h.isName_keyspace, ?_, h.isName_name, ?_, fun _ => h.derived hlacks, fun hid => absurd hlacks' hid⟩
  · rw [hget]
    rfl
  · rw [hget]
    rfl
  · refine Reading.optionalField_eq_ok_iff.mpr (Or.inr ⟨_, ?_, Reading.textMap_eq_ok_iff.mpr rfl⟩)
    rw [hget]
    rfl

/-! ## Problems -/

/-- The problem with a name that is empty. -/
def emptyProblem (field name : Text) : List Problem :=
  if name = [] then [⟨.tooShort 1, [.key field], .text name⟩] else []

theorem problems_requiredName {field s : Text} (h : members.get? field = some (.text s)) (hs : s.isEncodable) :
    (requiredField members field Reading.name).problems = emptyProblem field s := by
  unfold requiredField emptyProblem
  simp only [h]
  cases s with
  | nil => rfl
  | cons c s =>
    have hname : Reading.name (.text (c :: s)) = .ok (c :: s) := Reading.name_eq_ok_iff.mpr ⟨rfl, hs, by simp⟩
    rw [hname, if_neg (by simp)]
    rfl

theorem problems_ofMembers {filled : Option Uuid} (h : filledId members = .ok filled) :
    (ofMembers members).problems =
      (requiredField members "keyspace" Reading.name).problems ++
        ((requiredField members "name" Reading.name).problems ++
          ((idPart members filled).problems ++ (optionalField members "columns" [] textMap).problems)) := by
  rw [ofMembers_of_filledId h]
  simp only [Checked.problems_map, Checked.problems_and]

theorem ofMembers_of_filledId_eq_error {ps : List Problem} (h : filledId members = .error ps) :
    ofMembers members = .error ps := by
  unfold ofMembers
  rw [h]
  rfl

/-- An identifier that is neither there nor filled in is a problem. -/
theorem exists_problem_idPart (h : LacksId members) :
    ∃ p ∈ (idPart members none).problems, p.location = [.key "id"] := by
  unfold idPart requiredField
  rcases h with h | h
  · exact ⟨⟨.missing, [.key "id"], .object members⟩, by simp [h, Checked.problems], rfl⟩
  · exact ⟨⟨.notUuid, [.key "id"], .null⟩, by simp [h]; exact List.mem_singleton_self _, rfl⟩

/-- Only the identifier has problems at its place. -/
theorem exists_problem_at_id_iff {filled : Option Uuid} (h : filledId members = .ok filled) :
    (∃ p ∈ (ofMembers members).problems, p.location = [.key "id"]) ↔
      ∃ p ∈ (idPart members filled).problems, p.location = [.key "id"] := by
  rw [problems_ofMembers h]
  have hfield : ∀ {field : String} {p : Problem}, p.location.head? = some (.key field) → field ≠ "id" →
      p.location ≠ [.key "id"] := by
    rintro field p hhead hne hlocation
    rw [hlocation] at hhead
    simp [Ne.symm hne] at hhead
  constructor
  · rintro ⟨p, hp, hlocation⟩
    simp only [List.mem_append] at hp
    rcases hp with hp | hp | hp | hp
    · exact absurd hlocation (hfield (Reading.head?_location_of_mem_requiredField hp) (by decide))
    · exact absurd hlocation (hfield (Reading.head?_location_of_mem_requiredField hp) (by decide))
    · exact ⟨p, hp, hlocation⟩
    · exact absurd hlocation (hfield (Reading.head?_location_of_mem_optionalField hp) (by decide))
  · rintro ⟨p, hp, hlocation⟩
    exact ⟨p, by simp [hp], hlocation⟩

/-- A document without an identifier has a problem at the identifier exactly if keyspace and name are not both texts. -/
theorem problem_at_id_iff (h : LacksId members) :
    (∃ p ∈ (ofMembers members).problems, p.location = [.key "id"]) ↔
      ¬(HoldsText members "keyspace" ∧ HoldsText members "name") := by
  by_cases hnames : HoldsText members "keyspace" ∧ HoldsText members "name"
  · simp only [hnames, and_self, not_true_eq_false, iff_false]
    obtain ⟨⟨keyspace, hk⟩, name, hn⟩ := hnames
    cases hid : derivedId keyspace name with
    | ok u =>
      rw [exists_problem_at_id_iff (filledId_of_derived h hk hn hid)]
      rintro ⟨p, hp, -⟩
      cases hp
    | error run =>
      rw [ofMembers_of_filledId_eq_error (filledId_of_unencodable h hk hn hid)]
      rintro ⟨p, hp, hlocation⟩
      rw [List.mem_singleton.mp hp] at hlocation
      cases hlocation
  · simp only [hnames, not_false_eq_true, iff_true]
    exact (exists_problem_at_id_iff (filledId_of_not_texts hnames)).mpr (exists_problem_idPart h)

/-- Empty names are problems by themselves. -/
theorem problems_of_texts (h : LacksId members) (hk : members.get? "keyspace" = some (.text keyspace))
    (hn : members.get? "name" = some (.text name)) (hk' : keyspace.isEncodable) (hn' : name.isEncodable) :
    (ofMembers members).problems =
      emptyProblem "keyspace" keyspace ++ emptyProblem "name" name ++
        (optionalField members "columns" [] textMap).problems := by
  rw [problems_ofMembers (filledId_of_derived h hk hn (derivedId_of_isEncodable hk' hn')),
    problems_requiredName hk hk', problems_requiredName hn hn', List.append_assoc]
  rfl

/-- **A document keeps the table and its identifier.**

- The tables that are read are those with names for keyspace and table, and each is read from its own document.
- Let a table be read from a document without an identifier. It is read again without the null one. Leave the identifier
  out of the own document of the table: what is left, in any order, with any columns and among other members, is read as
  the table with those columns.
- An identifier that is written is the identifier of the table.
- Let a document without an identifier be refused. One of its problems stands at the identifier exactly if keyspace and
  name are not both texts. If they are, and have a UTF-8 form, there are no other problems than that one of them is
  empty and those with the columns. -/
theorem documents_keep_tables (cause : Cause) :
    (∀ t : Table, (t.WellFormed ↔ ∃ v, read cause v = .ok t) ∧ (t.WellFormed → read cause t.toDocument = .ok t)) ∧
      (∀ (members : Entries Document) (t : Table), read cause (.object members) = .ok t →
        (LacksId members → read cause (.object (members.erase "id")) = .ok t ∧
          ∀ (columns : Entries Text) (extra members' : Entries Document),
            members'.Perm ({ t with columns }.written.erase "id" ++ extra) →
            members'.keys.Nodup → (∀ e ∈ extra, e.1 = "id" → e.2 = .null) →
              read cause (.object members') = .ok { t with columns }) ∧
        (¬LacksId members → ∃ s, members.get? "id" = some (.text s) ∧ Uuid.parse s = .ok t.id)) ∧
      ∀ (members : Entries Document) (problems : List Problem), read cause (.object members) = .error problems →
        LacksId members →
          ((∃ p ∈ problems, p.location = [.key "id"]) ↔
            ¬(HoldsText members "keyspace" ∧ HoldsText members "name")) ∧
          ∀ keyspace name : Text, members.get? "keyspace" = some (.text keyspace) →
            members.get? "name" = some (.text name) → keyspace.isEncodable → name.isEncodable →
              problems = emptyProblem "keyspace" keyspace ++ emptyProblem "name" name ++
                (optionalField members "columns" [] textMap).problems := by
  refine ⟨fun t => ⟨wellFormed_iff, fun h => read_toDocument h cause⟩, fun members t h => ⟨fun hlacks => ⟨?_, ?_⟩, ?_⟩,
    fun members problems h hlacks => ?_⟩
  · exact ofMembers_eq_ok_iff.mpr (describes_erase_id (ofMembers_eq_ok_iff.mp h) hlacks)
  · intro columns extra members' hperm hnodup hextra
    exact ofMembers_eq_ok_iff.mpr
      (describes_of_perm (ofMembers_eq_ok_iff.mp h) hlacks columns hperm hnodup hextra)
  · intro hid
    obtain ⟨s, hs, -, hparse⟩ := (ofMembers_eq_ok_iff.mp h).written hid
    exact ⟨s, hs, hparse⟩
  · have hproblems : (ofMembers members).problems = problems := congrArg Checked.problems h
    refine ⟨hproblems ▸ problem_at_id_iff hlacks, fun keyspace name hk hn hk' hn' => ?_⟩
    rw [← hproblems, problems_of_texts hlacks hk hn hk' hn']

/-- Members of a table without an identifier: in no particular order, with a null one and with a member that means
nothing. -/
def pointedMembers : Entries Document :=
  [("comment", .text "no id"), ("name", .text "c"), ("id", .null),
    ("columns", .object [("b", .text "text"), ("a", .text "int")]), ("keyspace", .text "a.b")]

def pointedTable : Table := ⟨"a.b", "c", idOfName (qualified "a.b" "c"), [("b", "text"), ("a", "int")]⟩

theorem describes_pointed : Describes pointedMembers pointedTable where
  keyspace := rfl
  isName_keyspace := ⟨by decide, by decide⟩
  name := rfl
  isName_name := ⟨by decide, by decide⟩
  columns := rfl
  derived _ := by simp only [pointedTable]
  written h := absurd (Or.inr rfl) h

theorem read_pointed : read notTable (.object pointedMembers) = .ok pointedTable :=
  ofMembers_eq_ok_iff.mpr describes_pointed

/-- Members with an empty keyspace. -/
def namelessMembers : Entries Document := [("keyspace", .text ""), ("name", .text "c")]

theorem documents_keep_tables_pointed :
    read notTable (.object pointedMembers) = .ok pointedTable ∧
      read notTable pointedTable.toDocument = .ok pointedTable ∧
      read notTable (.object (("comment", .null) :: pointedTable.written.erase "id")) = .ok pointedTable ∧
      ∃ problems, read notTable (.object namelessMembers) = .error problems ∧
        problems = emptyProblem "keyspace" "" ++ emptyProblem "name" "c" ++ [] := by
  obtain ⟨htables, hkept, hproblems⟩ := documents_keep_tables notTable
  refine ⟨read_pointed, (htables _).2 ((htables _).1.mpr ⟨_, read_pointed⟩), ?_, ?_⟩
  · exact ((hkept _ _ read_pointed).1 (Or.inr rfl)).2 pointedTable.columns [("comment", .null)] _
      (List.perm_append_singleton _ _).symm (by decide) (by simp)
  · obtain ⟨problems, h⟩ : ∃ problems, read notTable (.object namelessMembers) = .error problems := ⟨_, rfl⟩
    exact ⟨problems, h, (hproblems _ _ h (Or.inl rfl)).2 "" "c" rfl rfl rfl rfl⟩

/-! ## Derived identifiers -/

/-- The second pair cuts the qualified name of the first one at an earlier point: what stands between the two points
ends the first keyspace and begins the second name. -/
def CutEarlier (t u : Table) : Prop :=
  ∃ between, t.keyspace = u.keyspace ++ "." ++ between ∧ u.name = between ++ "." ++ t.name

/-- Keyspaces and names are the same, or cut one qualified name at two of its points. -/
def NamedAlike (t u : Table) : Prop :=
  (t.keyspace = u.keyspace ∧ t.name = u.name) ∨ CutEarlier t u ∨ CutEarlier u t

/-- What follows a keyspace and begins with a point is the name, or goes on to another point. -/
theorem append_point_cases {between name name' : Text} (h : "." ++ name = between ++ ("." ++ name')) :
    (between = [] ∧ name = name') ∨ ∃ rest, between = "." ++ rest ∧ name = rest ++ "." ++ name' := by
  cases between with
  | nil => exact Or.inl ⟨rfl, (List.cons.inj h).2⟩
  | cons c rest =>
    obtain ⟨rfl, hname⟩ := List.cons.inj h
    exact Or.inr ⟨rest, rfl, hname.trans (List.append_assoc _ _ _).symm⟩

theorem qualified_of_cutEarlier {t u : Table} (h : CutEarlier t u) :
    qualified t.keyspace t.name = qualified u.keyspace u.name := by
  obtain ⟨between, hk, hn⟩ := h
  simp [qualified, hk, hn]

/-- The qualified names are the same if and only if the tables are named alike. -/
theorem qualified_eq_iff {t u : Table} :
    qualified t.keyspace t.name = qualified u.keyspace u.name ↔ NamedAlike t u := by
  constructor
  · intro h
    rw [qualified, qualified, List.append_assoc, List.append_assoc] at h
    rcases List.append_eq_append_iff.mp h with ⟨between, hk, hn⟩ | ⟨between, hk, hn⟩
    · rcases append_point_cases hn with ⟨rfl, hname⟩ | ⟨rest, rfl, hname⟩
      · exact Or.inl ⟨by simpa using hk.symm, hname⟩
      · exact Or.inr (Or.inr ⟨rest, by rw [hk, List.append_assoc], hname⟩)
    · rcases append_point_cases hn with ⟨rfl, hname⟩ | ⟨rest, rfl, hname⟩
      · exact Or.inl ⟨by simpa using hk, hname.symm⟩
      · exact Or.inr (Or.inl ⟨rest, by rw [hk, List.append_assoc], hname⟩)
  · rintro (⟨hk, hn⟩ | h | h)
    · rw [hk, hn]
    · exact qualified_of_cutEarlier h
    · exact (qualified_of_cutEarlier h).symm

/-- Cutting a name at another point changes the lengths of both parts. -/
theorem not_cutEarlier_of_eq {t u : Table} (h : t.keyspace = u.keyspace ∨ t.name = u.name) : ¬CutEarlier t u := by
  rintro ⟨between, hk, hn⟩
  have hk := congrArg List.length hk
  have hn := congrArg List.length hn
  simp only [List.length_append] at hk hn
  have hpoint : (Text.ofString ".").length = 1 := rfl
  rcases h with h | h
  · rw [h] at hk
    omega
  · rw [h] at hn
    omega

theorem not_cutEarlier_of_not_mem {t u : Table} (h : CodePoint.ofChar '.' ∉ t.keyspace) : ¬CutEarlier t u := by
  rintro ⟨between, hk, -⟩
  have hpoint : CodePoint.ofChar '.' ∈ Text.ofString "." := by decide
  exact h (by simp [hk, hpoint])

/-- Tables that share one of keyspace and name, or whose keyspaces hold no points, are named alike only if they have the
same names. -/
theorem namedAlike_iff {t u : Table}
    (h : t.keyspace = u.keyspace ∨ t.name = u.name ∨
      (CodePoint.ofChar '.' ∉ t.keyspace ∧ CodePoint.ofChar '.' ∉ u.keyspace)) :
    NamedAlike t u ↔ t.keyspace = u.keyspace ∧ t.name = u.name := by
  have hneither : ¬CutEarlier t u ∧ ¬CutEarlier u t := by
    rcases h with h | h | h
    · exact ⟨not_cutEarlier_of_eq (Or.inl h), not_cutEarlier_of_eq (Or.inl h.symm)⟩
    · exact ⟨not_cutEarlier_of_eq (Or.inr h), not_cutEarlier_of_eq (Or.inr h.symm)⟩
    · exact ⟨not_cutEarlier_of_not_mem h.1, not_cutEarlier_of_not_mem h.2⟩
  simp [NamedAlike, hneither.1, hneither.2]

/-- **Derived identifiers tell tables that are not named alike.** Let two tables be read from documents without
identifiers. Their identifiers are derived from their qualified names, which are the same exactly if the tables are
named alike. So are the identifiers, unless the names are different and happen to have the same digest. Tables that
share one of keyspace and name, or whose keyspaces hold no points, are named alike only if they have the same names. -/
theorem derivedIds_agree_iff {cause : Cause} {members members' : Entries Document} {t u : Table}
    (ht : read cause (.object members) = .ok t) (hu : read cause (.object members') = .ok u) (hlacks : LacksId members)
    (hlacks' : LacksId members') :
    t.id = idOfName (qualified t.keyspace t.name) ∧ u.id = idOfName (qualified u.keyspace u.name) ∧
      (qualified t.keyspace t.name = qualified u.keyspace u.name ↔ NamedAlike t u) ∧
      ((idOfName (qualified t.keyspace t.name) = idOfName (qualified u.keyspace u.name) →
          qualified t.keyspace t.name = qualified u.keyspace u.name) → (t.id = u.id ↔ NamedAlike t u)) ∧
      (t.keyspace = u.keyspace ∨ t.name = u.name ∨
          (CodePoint.ofChar '.' ∉ t.keyspace ∧ CodePoint.ofChar '.' ∉ u.keyspace) →
        (NamedAlike t u ↔ t.keyspace = u.keyspace ∧ t.name = u.name)) := by
  have hid := (ofMembers_eq_ok_iff.mp ht).derived hlacks
  have hid' := (ofMembers_eq_ok_iff.mp hu).derived hlacks'
  refine ⟨hid, hid', qualified_eq_iff, fun hdigest => ?_, namedAlike_iff⟩
  rw [hid, hid', ← qualified_eq_iff]
  exact ⟨hdigest, congrArg idOfName⟩

/-- The table of keyspace `a` that is called `b.c`. -/
def shiftedTable : Table := ⟨"a", "b.c", idOfName (qualified "a" "b.c"), []⟩

def shiftedMembers : Entries Document := [("keyspace", .text "a"), ("name", .text "b.c")]

theorem describes_shifted : Describes shiftedMembers shiftedTable where
  keyspace := rfl
  isName_keyspace := ⟨by decide, by decide⟩
  name := rfl
  isName_name := ⟨by decide, by decide⟩
  columns := rfl
  derived _ := by simp only [shiftedTable]
  written h := absurd (Or.inl rfl) h

theorem read_shifted : read notTable (.object shiftedMembers) = .ok shiftedTable :=
  ofMembers_eq_ok_iff.mpr describes_shifted

/-- Two tables with different keyspaces and names have the same derived identifier. -/
theorem derivedIds_not_apart :
    read notTable (.object pointedMembers) = .ok pointedTable ∧ LacksId pointedMembers ∧
      read notTable (.object shiftedMembers) = .ok shiftedTable ∧ LacksId shiftedMembers ∧
      pointedTable.keyspace ≠ shiftedTable.keyspace ∧ pointedTable.name ≠ shiftedTable.name ∧
      qualified pointedTable.keyspace pointedTable.name = qualified shiftedTable.keyspace shiftedTable.name ∧
      pointedTable.id = shiftedTable.id := by
  have hname : qualified "a.b" "c" = qualified "a" "b.c" := rfl
  refine ⟨read_pointed, Or.inr rfl, read_shifted, Or.inl rfl, by decide, by decide, hname, ?_⟩
  simp only [pointedTable, shiftedTable, hname]

theorem derivedIds_agree_iff_shifted :
    read notTable (.object pointedMembers) = .ok pointedTable ∧
      read notTable (.object shiftedMembers) = .ok shiftedTable ∧
      NamedAlike pointedTable shiftedTable ∧
      pointedTable.id = idOfName (qualified pointedTable.keyspace pointedTable.name) := by
  obtain ⟨hid, -, hqualified, -⟩ := derivedIds_agree_iff read_pointed read_shifted (Or.inr rfl) (Or.inl rfl)
  exact ⟨read_pointed, read_shifted, hqualified.mp rfl, hid⟩

end Table

end IndexOptions
