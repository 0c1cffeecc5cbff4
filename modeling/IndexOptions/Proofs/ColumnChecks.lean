import IndexOptions.Proofs.MappedColumns

/-!
# The first column that does not fit

A schema is checked against a table field by field, and column by column within a field. A table supplies a column to a
mapper if it has the column with a type that the mapper supports (`Table.Supplies`), and otherwise one thing is told of
the column (`Table.Misfit`): it is missing, or its type is not supported.

- `Schema.findSome?_reads`: the check is a loop over the columns of a field inside of a loop over the fields;
- `Schema.fieldFault?_eq_some_iff` and `Schema.checkColumns_eq_error_iff`: what each loop stops at, with everything
  before it supplied;
- `Schema.checkColumns_tells_first_misfit`: the check as a whole.
-/

namespace IndexOptions

variable {t : Table} {field column : Text} {mapper : Mapper} {error : SchemaError}

theorem Mapper.supports_iff {type : Text} : mapper.supports type ↔ ColumnType.base type ∈ mapper.supportedTypes := by
  simp [Mapper.supports]

namespace Table

/-- The table has the column, and the base type of the column is one that the mapper supports. -/
def Supplies (t : Table) (mapper : Mapper) (column : Text) : Prop :=
  ∃ type, t.columnType? column = some type ∧ ColumnType.base type ∈ mapper.supportedTypes

/-- What is told of a column that the table does not supply to the mapper of a field. -/
inductive Misfit (t : Table) (field : Text) (mapper : Mapper) (column : Text) : SchemaError → Prop
  | missing : t.columnType? column = none → Misfit t field mapper column (.noColumn column field)
  /-- The type is told as the table declares it. -/
  | unsupported {type : Text} : t.columnType? column = some type → ColumnType.base type ∉ mapper.supportedTypes →
      Misfit t field mapper column (.unsupported mapper.tag field type column)

/-- The message names the column and the field, and a type that is not supported together with the kind of mapper. -/
theorem Misfit.message_eq (h : t.Misfit field mapper column error) :
    error.message = match t.columnType? column with
      | none => "No column definition '" ++ column ++ "' for mapper '" ++ field ++ "'"
      | some type =>
        "'" ++ mapper.tag ++ "' mapper '" ++ field ++ "' does not support type '" ++ type ++
          "' of column '" ++ column ++ "'" := by
  cases h with
  | missing htype => rw [htype]; rfl
  | unsupported htype _ => rw [htype]; rfl

end Table

namespace Schema

/-! ## One column -/

theorem columnFault?_eq_none_iff_supplies : columnFault? t field mapper column = none ↔ t.Supplies mapper column := by
  simp only [columnFault?_eq_none_iff, Mapper.supports_iff, Table.Supplies]

theorem columnFault?_eq_some_iff :
    columnFault? t field mapper column = some error ↔ t.Misfit field mapper column error := by
  unfold columnFault?
  constructor
  · intro h
    cases htype : t.columnType? column with
    | none =>
      rw [htype] at h
      cases h
      exact .missing htype
    | some type =>
      rw [htype] at h
      dsimp only at h
      split at h
      · cases h
      · next hsupports =>
        cases h
        exact .unsupported htype (mt Mapper.supports_iff.mpr hsupports)
  · intro h
    cases h with
    | missing htype => rw [htype]
    | unsupported htype hbase =>
      rw [htype]
      dsimp only
      rw [if_neg (mt Mapper.supports_iff.mp hbase)]

/-! ## One field -/

/-- The fault of the first column of a field that the table does not supply. -/
def fieldFault? (t : Table) (field : Text) (mapper : Mapper) : Option SchemaError :=
  (mapper.columns field).findSome? (columnFault? t field mapper)

theorem fieldFault?_eq_none_iff :
    fieldFault? t field mapper = none ↔ ∀ column ∈ mapper.columns field, t.Supplies mapper column := by
  simp only [fieldFault?, List.findSome?_eq_none_iff, columnFault?_eq_none_iff_supplies]

/-- The columns before the one that is reported are supplied. -/
theorem fieldFault?_eq_some_iff :
    fieldFault? t field mapper = some error ↔
      ∃ before column after, mapper.columns field = before ++ column :: after ∧
        (∀ c ∈ before, t.Supplies mapper c) ∧ t.Misfit field mapper column error := by
  simp only [fieldFault?, List.findSome?_eq_some_iff, columnFault?_eq_some_iff, columnFault?_eq_none_iff_supplies]
  constructor
  · rintro ⟨before, column, after, hcolumns, hmisfit, hbefore⟩
    exact ⟨before, column, after, hcolumns, hbefore, hmisfit⟩
  · rintro ⟨before, column, after, hcolumns, hbefore, hmisfit⟩
    exact ⟨before, column, after, hcolumns, hmisfit, hbefore⟩

/-! ## All fields -/

/-- Looking through all columns that are read is looking through the fields, and through the columns of each. -/
theorem findSome?_reads (s : Schema) (t : Table) :
    (s.reads.findSome? fun (field, mapper, column) => columnFault? t field mapper column) =
      s.fields.findSome? fun (field, mapper) => fieldFault? t field mapper := by
  unfold reads
  induction s.fields with
  | nil => rfl
  | cons e fields ih =>
    obtain ⟨field, mapper⟩ := e
    rw [List.flatMap_cons, List.findSome?_append, ih, List.findSome?_map, List.findSome?_cons]
    show (fieldFault? t field mapper).or _ = _
    cases h : fieldFault? t field mapper <;> simp [h]

/-- The fields before the one that is reported are fed by columns that are supplied. -/
theorem checkColumns_eq_error_iff {s : Schema} {failure : Failure} :
    s.checkColumns t = .error failure ↔
      ∃ before field mapper after error, s.fields = before ++ (field, mapper) :: after ∧
        (∀ g m, (g, m) ∈ before → ∀ c ∈ m.columns g, t.Supplies m c) ∧
        fieldFault? t field mapper = some error ∧ failure = .schema error := by
  have hcheck : s.checkColumns t = .error failure ↔
      ∃ error, (s.fields.findSome? fun (field, mapper) => fieldFault? t field mapper) = some error ∧
        failure = .schema error := by
    rw [checkColumns, findSome?_reads]
    cases s.fields.findSome? fun (field, mapper) => fieldFault? t field mapper with
    | none => simp
    | some error => simp [eq_comm]
  rw [hcheck]
  simp only [List.findSome?_eq_some_iff]
  constructor
  · rintro ⟨error, ⟨before, ⟨field, mapper⟩, after, hfields, hfault, hbefore⟩, rfl⟩
    have hsupplies : ∀ g m, (g, m) ∈ before → ∀ c ∈ m.columns g, t.Supplies m c := by
      intro g m hm
      exact fieldFault?_eq_none_iff.mp (hbefore (g, m) hm)
    exact ⟨before, field, mapper, after, error, hfields, hsupplies, hfault, rfl⟩
  · rintro ⟨before, field, mapper, after, error, hfields, hsupplies, hfault, rfl⟩
    refine ⟨error, ⟨before, (field, mapper), after, hfields, hfault, ?_⟩, rfl⟩
    rintro ⟨g, m⟩ hm
    exact fieldFault?_eq_none_iff.mpr (hsupplies g m hm)

/-- **The check of the columns tells the first that does not fit.** It passes exactly if the table supplies every column
that a field reads. Otherwise it fails with what is told of one column of one field: the columns that the field reads
before it are supplied, and so are all that are read by fields before this one. The message says whether the column is
missing, and if not, which type the table declares for it. -/
theorem checkColumns_tells_first_misfit (s : Schema) (t : Table) :
    (s.checkColumns t = .ok () ↔
      ∀ field mapper, (field, mapper) ∈ s.fields → ∀ column ∈ mapper.columns field, t.Supplies mapper column) ∧
    (∀ failure, s.checkColumns t = .error failure ↔
      ∃ fields field mapper fields' columns column columns' error,
        s.fields = fields ++ (field, mapper) :: fields' ∧ mapper.columns field = columns ++ column :: columns' ∧
        (∀ g m, (g, m) ∈ fields → ∀ c ∈ m.columns g, t.Supplies m c) ∧ (∀ c ∈ columns, t.Supplies mapper c) ∧
        t.Misfit field mapper column error ∧ failure = .schema error) ∧
    ∀ field mapper column error, t.Misfit field mapper column error →
      error.message = match t.columnType? column with
        | none => "No column definition '" ++ column ++ "' for mapper '" ++ field ++ "'"
        | some type =>
          "'" ++ mapper.tag ++ "' mapper '" ++ field ++ "' does not support type '" ++ type ++ "' of column '" ++
            column ++ "'" := by
  refine ⟨?_, ?_, fun _ _ _ _ => Table.Misfit.message_eq⟩
  · simp only [checkColumns_eq_ok_iff, Mapper.supports_iff, Table.Supplies]
  · intro failure
    simp only [checkColumns_eq_error_iff, fieldFault?_eq_some_iff]
    constructor
    · rintro ⟨fields, field, mapper, fields', error, hfields, hfirst, hfault, hfailure⟩
      obtain ⟨columns, column, columns', hcolumns, hbefore, hmisfit⟩ := hfault
      exact ⟨fields, field, mapper, fields', columns, column, columns', error, hfields, hcolumns, hfirst, hbefore,
        hmisfit, hfailure⟩
    · rintro ⟨fields, field, mapper, fields', columns, column, columns', error, hfields, hcolumns, hfirst, hbefore,
        hmisfit, hfailure⟩
      exact ⟨fields, field, mapper, fields', error, hfields, hfirst, ⟨columns, column, columns', hcolumns, hbefore,
        hmisfit⟩, hfailure⟩

/-- The longitude is looked at after the latitude, and before the other fields. -/
example : checkColumns
    ⟨"standard", [], [("place", ⟨false, .geoPoint "lat" "lon" 11⟩), ("body", ⟨false, .text none none⟩)]⟩
    ⟨"demo", "tweets", Uuid.ofNat 1, [("lat", "frozen<Double>"), ("lon", "list<blob>")]⟩ =
      .error (.schema (.unsupported "geo_point" "place" "list<blob>" "lon")) := rfl

end Schema

end IndexOptions
