import IndexOptions.Proofs.Identifiers
import IndexOptions.Proofs.IndexDirectories

/-!
# What a directory tells

Keyspaces, tables and indexes are named by any texts, and a name may hold slashes, be made of points only, or begin a
path anew. Two things survive:

- the last component of the base directory of a table ends with the digits of its identifier, so that the identifier is
  read from the path (`Directories.baseFor_tells_id`);
- with names that are single components (`Path.IsPlain`), the directory of an index tells keyspace, table, identifier
  and index (`Directories.derivedPath_injective`). The name of the table and the digits share a component, and the
  digits have a fixed number (`Directories.tableComponent_inj`).
-/

namespace IndexOptions

/-- What follows a text, without separators, stays together at the end of the last piece. -/
theorem Text.splitOn_append_of_not_mem {sep : CodePoint} {s : Text} (t : Text) (h : sep ∉ s) :
    ∃ front last, splitOn sep (t ++ s) = front ++ [last ++ s] := by
  induction t with
  | nil => exact ⟨[], [], splitOn_of_not_mem h⟩
  | cons c t ih =>
    obtain ⟨front, last, hsplit⟩ := ih
    rw [List.cons_append, splitOn, hsplit]
    by_cases hc : c = sep
    · exact ⟨[] :: front, last, if_pos hc⟩
    · rw [if_neg hc]
      cases front with
      | nil => exact ⟨[], c :: last, rfl⟩
      | cons f front => exact ⟨(c :: f) :: front, last, rfl⟩

namespace Path

variable {p q : Path} {s t : Text}

/-! ## Absolute paths -/

/-- The path begins at a root. -/
def IsAbsolute (p : Path) : Prop := p.root ≠ .none

instance : DecidablePred IsAbsolute := fun _ => inferInstanceAs (Decidable (_ ≠ _))

theorem isAbsolute_join (hp : p.IsAbsolute) (q : Path) : (p.join q).IsAbsolute := by
  unfold join
  split
  · exact hp
  · next h => exact h

/-! ## The last component -/

theorem exists_parts_join {c : Text} (p : Path) (h : ∃ front, q.parts = front ++ [c]) :
    ∃ front, (p.join q).parts = front ++ [c] := by
  obtain ⟨front, hq⟩ := h
  unfold join
  split
  · exact ⟨p.parts ++ front, by simp [hq]⟩
  · exact ⟨front, hq⟩

/-- An end of two or more code points without a slash is the end of the last component. -/
theorem exists_parts_parse_append (t : Text) (hs : CodePoint.ofChar '/' ∉ s) (hlen : 2 ≤ s.length) :
    ∃ last front, (parse (t ++ s)).parts = front ++ [last ++ s] := by
  obtain ⟨front, last, hsplit⟩ := Text.splitOn_append_of_not_mem t hs
  have hcomponent : isComponent (last ++ s) := by
    have hpoint : last ++ s ≠ "." := fun h => by
      have hlength := congrArg List.length h
      simp [Text.ofString] at hlength
      omega
    have hnil : s ≠ [] := List.ne_nil_of_length_pos (by omega)
    simp [isComponent, hpoint, hnil]
  refine ⟨last, front.filter isComponent, ?_⟩
  show (Text.splitOn '/' (t ++ s)).filter isComponent = _
  rw [hsplit, List.filter_append, List.filter_singleton, hcomponent]
  rfl

/-! ## Single components -/

/-- A text that is a single component. -/
def IsPlain (t : Text) : Prop := isComponent t ∧ CodePoint.ofChar '/' ∉ t

instance : DecidablePred IsPlain := fun _ => inferInstanceAs (Decidable (_ ∧ _))

theorem isRelative_of_isPlain (h : IsPlain t) : IsRelative t :=
  fun hhead => h.2 (List.mem_of_mem_head? hhead)

theorem parts_parse_of_isPlain (h : IsPlain t) : (parse t).parts = [t] := by
  show (Text.splitOn '/' t).filter isComponent = [t]
  rw [Text.splitOn_of_not_mem h.2, List.filter_singleton, h.1]
  rfl

theorem join_parse_of_isPlain (p : Path) (h : IsPlain t) : p.join (parse t) = p.extend [t] := by
  rw [join_parse_of_isRelative p (isRelative_of_isPlain h), parts_parse_of_isPlain h]

theorem extend_inj {cs ds : List Text} : p.extend cs = p.extend ds ↔ cs = ds := by
  simp [extend]

end Path

namespace Directories

open IndexOptions.Path (IsPlain)

variable {d : Directories} {t u : Table} {i j : Index} {p q : Path}

/-! ## The identifier of a table -/

/-- The dash and the digits at the end of the component of a table. -/
def idSuffix (t : Table) : Text := "-" ++ t.id.hex

/-- The component of a table is its name with a suffix of a fixed length behind it. -/
theorem tableComponent_eq (t : Table) : tableComponent t = t.name ++ idSuffix t := List.append_assoc _ _ _

theorem length_idSuffix (t : Table) : (idSuffix t).length = 33 := by
  simp [idSuffix, Uuid.length_hex, Text.ofString]

/-- The suffix holds no separator, so it stays with the end of the name. -/
theorem slash_not_mem_idSuffix (t : Table) : CodePoint.ofChar '/' ∉ idSuffix t := by
  have hhex : CodePoint.ofChar '/' ∉ t.id.hex := Text.not_mem_hex (by decide)
  have hdash : CodePoint.ofChar '/' ∉ Text.ofString "-" := by decide
  simp [idSuffix, hhex, hdash]

/-- Whatever the name of a table is, its base directory ends with the suffix. -/
theorem exists_parts_baseFor (d : Directories) (t : Table) :
    ∃ last front, (d.baseFor t).parts = front ++ [last ++ idSuffix t] := by
  obtain ⟨last, hparts⟩ := Path.exists_parts_parse_append t.name (slash_not_mem_idSuffix t)
    (by rw [length_idSuffix]; decide)
  rw [← tableComponent_eq] at hparts
  exact ⟨last, Path.exists_parts_join _ hparts⟩

/-- The last 32 code points of the last component are the digits of the identifier. -/
theorem drop_idSuffix (last : Text) (t : Table) :
    (last ++ idSuffix t).drop ((last ++ idSuffix t).length - 32) = t.id.hex := by
  have hlen : (last ++ idSuffix t).length - 32 = (last ++ Text.ofString "-").length := by
    rw [List.length_append, length_idSuffix, List.length_append]
    rfl
  rw [hlen, idSuffix, ← List.append_assoc, List.drop_left]

/-- The identifier that the last 32 code points of a path stand for. -/
def writtenId? (p : Path) : Option Uuid :=
  p.parts.getLast?.bind fun name => (Uuid.parse (name.drop (name.length - 32))).toOption

/-- The identifier of a table is read from its base directory, under every data directory. -/
theorem writtenId?_baseFor (d : Directories) (t : Table) : writtenId? (d.baseFor t) = some t.id := by
  obtain ⟨last, front, hparts⟩ := exists_parts_baseFor d t
  rw [writtenId?, hparts, List.getLast?_concat, Option.bind_some, drop_idSuffix, Uuid.parse_hex]
  rfl

theorem isAbsolute_baseFor (h : d.data.IsAbsolute) (t : Table) : (d.baseFor t).IsAbsolute :=
  Path.isAbsolute_join (Path.isAbsolute_join h _) _

/-- **The base directory of a table tells its identifier.** It is an absolute path, the last 32 code points of its last
component are the digits of the identifier, and the identifier is read from them. So tables with different identifiers
have different base directories, whatever their keyspaces and names. All of this holds in every working directory. -/
theorem baseFor_tells_id {working : Path} (hworking : working.IsAbsolute) (data : Text) (t : Table) :
    ((ofText working data).baseFor t).IsAbsolute ∧
      (∃ front name, ((ofText working data).baseFor t).parts = front ++ [name] ∧
        name.drop (name.length - 32) = t.id.hex) ∧
      writtenId? ((ofText working data).baseFor t) = some t.id ∧
      ∀ u : Table, u.id ≠ t.id → (ofText working data).baseFor u ≠ (ofText working data).baseFor t := by
  refine ⟨isAbsolute_baseFor (Path.isAbsolute_join hworking _) t, ?_, writtenId?_baseFor _ t, ?_⟩
  · obtain ⟨last, front, hparts⟩ := exists_parts_baseFor (ofText working data) t
    exact ⟨front, last ++ idSuffix t, hparts, drop_idSuffix last t⟩
  · intro u hne hbase
    have hid : some u.id = some t.id := by
      rw [← writtenId?_baseFor (ofText working data) u, hbase, writtenId?_baseFor]
    exact hne (Option.some.inj hid)

/-- A table whose name is a point between slashes, in a keyspace that leads up. -/
def slashedTable : Table := ⟨"..", "/./", Uuid.ofNat 0xa, []⟩

/-- A table in a rooted keyspace, whose name ends with digits. -/
def rootedTable : Table := ⟨"/tmp", "-0000000000000000000000000000000a", Uuid.ofNat 0xb, []⟩

theorem baseFor_tells_id_slashed :
    (Path.parse "/srv").IsAbsolute ∧ slashedTable.id ≠ rootedTable.id ∧
      (ofText (Path.parse "/srv") "data/./x").baseFor slashedTable ≠
        (ofText (Path.parse "/srv") "data/./x").baseFor rootedTable ∧
      writtenId? ((ofText (Path.parse "/srv") "data/./x").baseFor rootedTable) = some (Uuid.ofNat 0xb) := by
  have hworking : (Path.parse "/srv").IsAbsolute := by decide
  obtain ⟨-, -, hid, hne⟩ := baseFor_tells_id hworking "data/./x" rootedTable
  have hids : slashedTable.id ≠ rootedTable.id := by decide
  exact ⟨hworking, hids, hne slashedTable hids, hid⟩

/-! ## Keyspace, table and index -/

/-- The keyspace, the table and the index are named by single components. -/
structure PlainlyNamed (t : Table) (i : Index) : Prop where
  keyspace : IsPlain t.keyspace
  table : IsPlain t.name
  index : IsPlain i.name

/-- The digits have a fixed number, so they are told from the name. -/
theorem tableComponent_inj : tableComponent t = tableComponent u ↔ t.name = u.name ∧ t.id = u.id := by
  constructor
  · intro h
    obtain ⟨hname, hdigits⟩ := List.append_inj' h (by rw [Uuid.length_hex, Uuid.length_hex])
    exact ⟨List.append_cancel_right hname, Uuid.hex_injective hdigits⟩
  · rintro ⟨hname, hid⟩
    rw [tableComponent, tableComponent, hname, hid]

/-- A plain name stays one with the suffix behind it. -/
theorem isPlain_tableComponent (h : IsPlain t.name) : IsPlain (tableComponent t) := by
  rw [tableComponent_eq]
  have hpoint : t.name ++ idSuffix t ≠ "." := fun hpoint => by
    have hlength := congrArg List.length hpoint
    rw [List.length_append, length_idSuffix] at hlength
    simp [Text.ofString] at hlength
  have hne : t.name ≠ [] := Path.ne_nil_of_isComponent h.1
  exact ⟨by simp [Path.isComponent, hpoint, hne], by simp [h.2, slash_not_mem_idSuffix t]⟩

theorem isPlain_indexesComponent : IsPlain indexesComponent := by decide

/-- Plain names are the components below the data directory. -/
theorem indexPath_of_plainlyNamed (d : Directories) (h : PlainlyNamed t i) :
    indexPath (d.baseFor t) i.name = d.data.extend [t.keyspace, tableComponent t, indexesComponent, i.name] := by
  rw [indexPath, baseFor, Path.join_parse_of_isPlain _ h.keyspace,
    Path.join_parse_of_isPlain _ (isPlain_tableComponent h.table),
    Path.join_parse_of_isPlain _ isPlain_indexesComponent,
    Path.join_parse_of_isPlain _ h.index]
  simp

/-- Under one data directory plain names are told from the path. -/
theorem indexPath_inj (d : Directories) (h : PlainlyNamed t i) (h' : PlainlyNamed u j) :
    indexPath (d.baseFor t) i.name = indexPath (d.baseFor u) j.name ↔
      t.keyspace = u.keyspace ∧ t.name = u.name ∧ t.id = u.id ∧ i.name = j.name := by
  rw [indexPath_of_plainlyNamed d h, indexPath_of_plainlyNamed d h', Path.extend_inj]
  simp [tableComponent_inj, and_assoc]

/-- Some options of an index of a table, without one for the directory, resolve to a path. -/
def DerivesPath (d : Directories) (t : Table) (i : Index) (p : Path) : Prop :=
  ∃ (σ : Type) (options : OptionMap) (builder : Builder σ) (table : Given Table) (index : Given Index) (c : Config σ),
    options.raw .directoryPath = none ∧ table.identity = .known t ∧ index.identity = .known i ∧
      (options.resolve table index d.naming builder).result = .ok c ∧ c.path = some p

/-- A derived path is that of the index below the base directory of its table. -/
theorem eq_indexPath_of_derivesPath (h : DerivesPath d t i p) : p = indexPath (d.baseFor t) i.name := by
  obtain ⟨σ, options, builder, table, index, c, hraw, ht, hi, hc, hp⟩ := h
  rw [OptionMap.result_resolve ht hi] at hc
  have hpath : (options.path (.known t) (.known i) d.naming).result = .ok c.path :=
    (OptionMap.values_eq_ok_iff.mp hc).2.2.2.2.2.2.2.1
  rw [OptionMap.path_of_naming i hraw rfl, hp] at hpath
  exact (Option.some.inj (Except.ok.inj hpath)).symm

/-- **The directory of an index tells the index.** Under one data directory, let the options of two indexes resolve to
paths that are derived from the names, and let keyspaces, tables and indexes have names that are single components. The
paths are the same only if the keyspaces, the names and the identifiers of the tables, and the names of the indexes
are. -/
theorem derivedPath_injective (h : DerivesPath d t i p) (h' : DerivesPath d u j q) (hplain : PlainlyNamed t i)
    (hplain' : PlainlyNamed u j) :
    p = q ↔ t.keyspace = u.keyspace ∧ t.name = u.name ∧ t.id = u.id ∧ i.name = j.name := by
  rw [eq_indexPath_of_derivesPath h, eq_indexPath_of_derivesPath h']
  exact indexPath_inj d hplain hplain'

/-- The name of the table looks like the component of another one. -/
def lookalikeTable : Table :=
  { OptionMap.oneColumn with name := "tweets-00000000000000000000000000000001" }

theorem derivedPath_injective_lookalike :
    ∃ p q, DerivesPath OptionMap.dataDirectories OptionMap.oneColumn OptionMap.bareIndex p ∧
      DerivesPath OptionMap.dataDirectories lookalikeTable OptionMap.bareIndex q ∧ p ≠ q := by
  have hderives : ∀ t : Table, (OptionMap.oneField.schema (.known t) OptionMap.schemaBuilder).result.isOk →
      DerivesPath OptionMap.dataDirectories t OptionMap.bareIndex
        (indexPath (OptionMap.dataDirectories.baseFor t) OptionMap.bareIndex.name) := by
    intro t ht
    obtain ⟨c, hc, hp⟩ := OptionMap.resolvesTo_indexPath OptionMap.bareIndex ht
    exact ⟨Schema, OptionMap.oneField, OptionMap.schemaBuilder, .bare t, .bare OptionMap.bareIndex, c, rfl, rfl, rfl,
      hc, hp⟩
  have hone := hderives OptionMap.oneColumn (by decide +kernel)
  have hlookalike := hderives lookalikeTable (by decide +kernel)
  refine ⟨_, _, hone, hlookalike, fun h => ?_⟩
  have hname := ((derivedPath_injective hone hlookalike ⟨by decide, by decide, by decide⟩
    ⟨by decide, by decide, by decide⟩).mp h).2.1
  exact absurd hname (by decide)

end Directories

end IndexOptions
