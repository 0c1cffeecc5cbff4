import IndexOptions.Proofs.BracketDepth
import IndexOptions.Proofs.ColumnChecks
import Mathlib.Logic.Relation

/-!
# What the check of the columns depends on

The check of a schema against a table looks up the columns that the schema maps, and of a type text it looks at nothing
but the base type.

- `ColumnType.base_of_rewrites`: a text and the same text in a frozen type, a list, a set or as the value of a map have
  one base type, whatever the text is, and so has the text in another spelling;
- `Schema.failsAt_iff`: the check fails at the first field and column that the table does not supply.

`Schema.checkColumns_reads_mapped` puts these together: tables that have the same types for the mapped columns come out
the same, and tables whose types are rewritten come out the same up to the type that a message shows.
-/

namespace IndexOptions

/-! ## Types in other types and spellings -/

namespace ColumnType

variable {c : CodePoint} {name k t u : Text}

/-- A text that stands for the same values: within a type that stands for its argument, as the value of a map, or in
another spelling. -/
inductive Rewrites : Text → Text → Prop
  | wrapped (w : Wrapper) (t : Text) : Rewrites t (generic w.word t)
  | mapped {k t : Text} : Balanced k → Balanced t → Uncut 0 t →
    Rewrites t (generic mapWord (k ++ CodePoint.ofChar ',' :: t))
  | written {t u : Text} : Text.Written t u → Rewrites t u

theorem withoutBlanks_mark (h : isMark c) (t r : Text) :
    (t ++ c :: r).withoutBlanks = t.withoutBlanks ++ c :: r.withoutBlanks := by
  unfold Text.withoutBlanks
  rw [List.filter_append, List.filter_cons_of_pos (by simp [isBlank_mark h])]

/-- The two sides of a mark are normalised by themselves. -/
theorem normal_mark (h : isMark c) (t r : Text) : normal (t ++ c :: r) = normal t ++ c :: normal r := by
  rw [normal, withoutBlanks_mark h, lower_mark h]
  rfl

theorem normal_generic (hn : normal name = name) (t : Text) : normal (generic name t) = generic name (normal t) := by
  unfold generic
  rw [normal_mark (by decide), normal_mark (by decide), hn]
  rfl

theorem normal_of_mem_standIns (h : name ∈ standIns) : normal name = name := by
  rw [normal, Text.withoutBlanks_eq_self (isBlank_of_mem_standIns h), lower_of_mem_standIns h]

theorem base_wrapped (w : Wrapper) (t : Text) : base (generic w.word t) = base t := by
  rw [base, normal_generic (normal_of_mem_standIns w.word_mem_standIns), reduce_of_element? (element?_wrapped w _)]
  rfl

/-- The last piece of the arguments of a map is its value. -/
theorem base_mapped (hk : depthFrom 0 k = 0) (ht : Uncut 0 t) :
    base (generic mapWord (k ++ CodePoint.ofChar ',' :: t)) = base t := by
  have hlast : (splitTopLevel (normal k ++ CodePoint.ofChar ',' :: normal t)).getLast? = some (normal t) :=
    getLast?_splitFrom_eq_some_iff.mpr
      (Or.inr ⟨normal k, rfl, (depthFrom_normal 0 k).trans hk, uncut_normal_iff.mpr ht⟩)
  have helement : element? (generic mapWord (normal k ++ CodePoint.ofChar ',' :: normal t)) = some (normal t) := by
    rw [element?_generic (isMark_of_mem_standIns mapWord_mem_standIns), if_neg (by decide), if_pos rfl, hlast]
  rw [base, normal_generic (normal_of_mem_standIns mapWord_mem_standIns), normal_mark (by decide),
    reduce_of_element? helement]
  rfl

theorem base_of_rewrites (h : Rewrites t u) : base u = base t := by
  cases h with
  | wrapped w => exact base_wrapped w t
  | mapped hk _ ht => exact base_mapped hk.settled ht
  | written h => rw [base, base, normal, normal, Text.lower_withoutBlanks_of_written h]

theorem base_of_reflTransGen (h : Relation.ReflTransGen Rewrites t u) : base u = base t := by
  induction h with
  | refl => rfl
  | tail _ hstep ih => rw [base_of_rewrites hstep, ih]

end ColumnType

/-! ## Tables with other types -/

namespace Table

/-- The table with another type for a column. -/
def retype (t : Table) (column type : Text) : Table := { t with columns := t.columns.put column type }

theorem columnType?_retype (t : Table) (column type name : Text) :
    (t.retype column type).columnType? name = if name = column then some type else t.columnType? name :=
  Entries.get?_put _ _ _ _

variable {t u : Table} {column : Text} {mapper : Mapper}

/-- Whether a column is supplied hangs on its base type. -/
theorem supplies_iff_of_rel
    (h : Option.Rel (Relation.ReflTransGen ColumnType.Rewrites) (t.columnType? column) (u.columnType? column)) :
    t.Supplies mapper column ↔ u.Supplies mapper column := by
  unfold Supplies
  generalize t.columnType? column = a at h
  generalize u.columnType? column = b at h
  cases h with
  | none => simp
  | some hab => simp [ColumnType.base_of_reflTransGen hab]

end Table

/-! ## Failures and their places -/

/-- The field and the column that a failed check of columns is about. -/
def SchemaError.place? : SchemaError → Option (Text × Text)
  | noColumn column field => some (field, column)
  | unsupported _ field _ column => some (field, column)
  | _ => none

theorem Table.Misfit.place?_eq {t : Table} {field column : Text} {mapper : Mapper} {error : SchemaError}
    (h : t.Misfit field mapper column error) : error.place? = some (field, column) := by
  cases h <;> rfl

namespace Schema

variable {s : Schema} {t u : Table} {field column : Text} {mapper : Mapper}

/-- The check of the columns fails with an error about a field and a column. -/
def FailsAt (s : Schema) (t : Table) (field column : Text) : Prop :=
  ∃ error, s.checkColumns t = .error (.schema error) ∧ error.place? = some (field, column)

theorem mem_mappedColumns_of_mem_reads (h : (field, mapper, column) ∈ s.reads) : column ∈ s.mappedColumns := by
  obtain ⟨hfield, hcolumn⟩ := mem_reads_iff.mp h
  exact mem_mappedColumns_iff.mpr ⟨field, mapper, hfield, hcolumn⟩

theorem checkColumns_eq_ok_iff_supplies :
    s.checkColumns t = .ok () ↔
      ∀ field mapper column, (field, mapper, column) ∈ s.reads → t.Supplies mapper column := by
  simp only [checkColumns_eq_ok_iff, mem_reads_iff, Table.Supplies, Mapper.supports_iff]
  exact ⟨fun h f m c hr => h f m hr.1 c hr.2, fun h f m hf c hc => h f m c ⟨hf, hc⟩⟩

/-- The check fails at the first of the columns that are read, in the order of the fields, that is not supplied. -/
theorem failsAt_iff :
    s.FailsAt t field column ↔ ∃ before mapper after, s.reads = before ++ (field, mapper, column) :: after ∧
      (∀ f m c, (f, m, c) ∈ before → t.Supplies m c) ∧ ¬t.Supplies mapper column := by
  have hcheck : ∀ error, s.checkColumns t = .error (.schema error) ↔
      (s.reads.findSome? fun r => columnFault? t r.1 r.2.1 r.2.2) = some error := by
    intro error
    unfold checkColumns
    split
    · next found hfound =>
      have hfirst : (s.reads.findSome? fun r => columnFault? t r.1 r.2.1 r.2.2) = some found := hfound
      simp [hfirst]
    · next hnone =>
      have hfirst : (s.reads.findSome? fun r => columnFault? t r.1 r.2.1 r.2.2) = none := hnone
      simp [hfirst]
  simp only [FailsAt, hcheck, List.findSome?_eq_some_iff]
  constructor
  · rintro ⟨error, ⟨before, ⟨f, mapper, c⟩, after, hreads, hfault, hbefore⟩, hplace⟩
    have hmisfit := columnFault?_eq_some_iff.mp hfault
    rw [hmisfit.place?_eq] at hplace
    obtain ⟨rfl, rfl⟩ := Prod.mk.inj (Option.some.inj hplace)
    refine ⟨before, mapper, after, hreads, fun f m c hm => ?_, fun hsupplies => ?_⟩
    · exact columnFault?_eq_none_iff_supplies.mp (hbefore (f, m, c) hm)
    · rw [columnFault?_eq_none_iff_supplies.mpr hsupplies] at hfault
      cases hfault
  · rintro ⟨before, mapper, after, hreads, hbefore, hsupplies⟩
    cases hfault : columnFault? t field mapper column with
    | none => exact absurd (columnFault?_eq_none_iff_supplies.mp hfault) hsupplies
    | some error =>
      refine ⟨error, ⟨before, (field, mapper, column), after, hreads, hfault, ?_⟩,
        (columnFault?_eq_some_iff.mp hfault).place?_eq⟩
      rintro ⟨f, m, c⟩ hm
      exact columnFault?_eq_none_iff_supplies.mpr (hbefore f m c hm)

/-! ## Tables that come out the same -/

theorem findSome?_congr {α β : Type} {l : List α} {f g : α → Option β} (h : ∀ a ∈ l, f a = g a) :
    l.findSome? f = l.findSome? g := by
  induction l with
  | nil => rfl
  | cons a l ih =>
    rw [List.findSome?_cons, List.findSome?_cons, h a List.mem_cons_self,
      ih fun b hb => h b (List.mem_cons_of_mem _ hb)]

/-- No column but the mapped ones is looked up. -/
theorem checkColumns_congr (h : ∀ c ∈ s.mappedColumns, t.columnType? c = u.columnType? c) :
    s.checkColumns t = s.checkColumns u := by
  unfold checkColumns
  rw [findSome?_congr (g := fun r => columnFault? u r.1 r.2.1 r.2.2)]
  rintro ⟨field, mapper, column⟩ hread
  show columnFault? t field mapper column = columnFault? u field mapper column
  rw [columnFault?, columnFault?, h column (mem_mappedColumns_of_mem_reads hread)]

theorem checkColumns_of_supplies_iff (h : ∀ c ∈ s.mappedColumns, ∀ m : Mapper, t.Supplies m c ↔ u.Supplies m c) :
    (s.checkColumns t = .ok () ↔ s.checkColumns u = .ok ()) ∧
      ∀ field column, s.FailsAt t field column ↔ s.FailsAt u field column := by
  have hread : ∀ {f m c}, (f, m, c) ∈ s.reads → (t.Supplies m c ↔ u.Supplies m c) :=
    fun hr => h _ (mem_mappedColumns_of_mem_reads hr) _
  refine ⟨?_, fun field column => ?_⟩
  · rw [checkColumns_eq_ok_iff_supplies, checkColumns_eq_ok_iff_supplies]
    exact forall₄_congr fun f m c hr => hread hr
  · rw [failsAt_iff, failsAt_iff]
    refine exists₃_congr fun before mapper after => and_congr_right fun hreads => ?_
    have hmem : ∀ x ∈ before ++ (field, mapper, column) :: after, x ∈ s.reads := fun x hx => hreads ▸ hx
    refine and_congr (forall₄_congr fun f m c hm => hread (hmem _ (List.mem_append_left _ hm))) (not_congr ?_)
    exact hread (hmem _ (List.mem_append_right _ List.mem_cons_self))

/-- **The check of the columns reads the types of the mapped columns, and these up to rewriting.**

- Tables with the same types for the mapped columns come out the same, with the same message.
- A table with further columns passes if the table without them does.
- Tables whose types for the mapped columns are rewritten, any of them and any number of times, both pass or both fail
  at the same column of the same field; in particular a table one of whose types is rewritten. -/
theorem checkColumns_reads_mapped (s : Schema) (t : Table) :
    (∀ u : Table, (∀ c ∈ s.mappedColumns, t.columnType? c = u.columnType? c) → s.checkColumns t = s.checkColumns u) ∧
    (s.checkColumns t = .ok () → ∀ u : Table,
      (∀ c type, t.columnType? c = some type → u.columnType? c = some type) → s.checkColumns u = .ok ()) ∧
    (∀ u : Table, (∀ c ∈ s.mappedColumns,
        Option.Rel (Relation.ReflTransGen ColumnType.Rewrites) (t.columnType? c) (u.columnType? c)) →
      (s.checkColumns t = .ok () ↔ s.checkColumns u = .ok ()) ∧
        ∀ field column, s.FailsAt t field column ↔ s.FailsAt u field column) ∧
    ∀ c type type', t.columnType? c = some type → ColumnType.Rewrites type type' →
      (s.checkColumns t = .ok () ↔ s.checkColumns (t.retype c type') = .ok ()) ∧
        ∀ field column, s.FailsAt t field column ↔ s.FailsAt (t.retype c type') field column := by
  refine ⟨fun u => checkColumns_congr, ?_, ?_, ?_⟩
  · intro h u hu
    rw [checkColumns_eq_ok_iff_supplies] at h ⊢
    intro field mapper column hread
    obtain ⟨type, htype, hbase⟩ := h field mapper column hread
    exact ⟨type, hu column type htype, hbase⟩
  · intro u hu
    exact checkColumns_of_supplies_iff fun c hc m => Table.supplies_iff_of_rel (hu c hc)
  · intro c type type' htype hrewrites
    refine checkColumns_of_supplies_iff fun d _ m => Table.supplies_iff_of_rel ?_
    rw [Table.columnType?_retype]
    split
    · next hd =>
      rw [hd, htype]
      exact .some (.single hrewrites)
    · cases t.columnType? d with
      | none => exact .none
      | some type => exact .some .refl

/-- A point and a text. -/
def pointAndBody : Schema :=
  ⟨"standard", [], [("place", ⟨false, .geoPoint "lat" "lon" 11⟩), ("body", ⟨false, .text none none⟩)]⟩

/-- A table with the columns of a point and a text, and one more. -/
def pointTable (longitude body : Text) : Table :=
  ⟨"demo", "places", Uuid.ofNat 1, [("lat", "double"), ("lon", longitude), ("body", body), ("since", "date")]⟩

/-- A frozen text in capitals and with blanks. -/
theorem rewrites_frozenText : Relation.ReflTransGen ColumnType.Rewrites "text" "Frozen< TEXT >" := by
  have hfrozen : ColumnType.Rewrites "text" "frozen<text>" := .wrapped .frozen "text"
  have hwritten : Text.Written "frozen<text>" "Frozen< TEXT >" := (Text.written_iff (by decide)).mpr (by decide +kernel)
  exact .tail (.single hfrozen) (.written hwritten)

/-- The type of the date does not matter, nor does a further column; a text passes as a frozen one in another spelling
and as the value of a map from pairs; and a longitude that is no number still is none as the element of a list. -/
theorem checkColumns_reads_mapped_pointAndBody :
    pointAndBody.checkColumns (pointTable "int" "text") = pointAndBody.checkColumns ((pointTable "int" "text").retype
        "since" "blob") ∧
      pointAndBody.checkColumns ((pointTable "int" "text").retype "more" "uuid") = .ok () ∧
      pointAndBody.checkColumns (pointTable "int" "Frozen< TEXT >") = .ok () ∧
      pointAndBody.checkColumns ((pointTable "int" "text").retype "body" "map<tuple<int,text>,text>") = .ok () ∧
      pointAndBody.FailsAt ((pointTable "blob" "text").retype "lon" "list<blob>") "place" "lon" := by
  have hpasses : pointAndBody.checkColumns (pointTable "int" "text") = .ok () := rfl
  have hfails : pointAndBody.FailsAt (pointTable "blob" "text") "place" "lon" := ⟨_, rfl, rfl⟩
  have hmapped : pointAndBody.mappedColumns = (["body", "lat", "lon"] : List Text) := rfl
  obtain ⟨hsame, hfurther, hrewritten, hretyped⟩ := checkColumns_reads_mapped pointAndBody (pointTable "int" "text")
  refine ⟨hsame _ (by decide), hfurther hpasses _ ?_, (hrewritten _ ?_).1.mp hpasses,
    (hretyped "body" "text" _ rfl ?_).1.mp hpasses, ?_⟩
  · intro c type htype
    rw [Table.columnType?_retype, if_neg, htype]
    rintro rfl
    cases htype
  · rw [hmapped]
    simp only [List.forall_mem_cons]
    exact ⟨.some rewrites_frozenText, .some .refl, .some .refl, by simp⟩
  · exact .mapped (k := "tuple<int,text>") (by decide) (by decide) (by decide)
  · have hblob := (checkColumns_reads_mapped pointAndBody (pointTable "blob" "text")).2.2.2
    exact ((hblob "lon" "blob" _ rfl (.wrapped .list "blob")).2 _ _).mp hfails

end Schema

end IndexOptions
