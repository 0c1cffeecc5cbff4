import IndexOptions.Proofs.EntryPoints
import IndexOptions.Proofs.Paths

/-!
# Where a derived index directory lies

The directory of an index is meant to lie in the reserved sub-directory of its table (`Directories.Reserved`), which is
meant to lie below the data directory (`Directories.Below`). Keyspaces, tables and indexes are named by any texts, and a
name that begins with a slash starts a path anew:

- `reserved_indexPath_iff` tells for which names of indexes the directory is in the reserved sub-directory;
- `below_baseFor_iff` tells for which keyspaces and names of tables the base directory is below the data directory.

`OptionMap.derivedPath_reserved_iff` says both of the path that resolving gives.
-/

namespace IndexOptions

namespace Directories

open IndexOptions.Path (IsRelative)

variable {base p : Path} {t : Table} {name : Text}

/-! ## Containment -/

/-- The path goes on from another one. -/
def Below (base p : Path) : Prop := ∃ rest, p = base.extend rest

/-- The path goes on from the reserved sub-directory of a base directory, by at least one component, and none of those
components leads up again. -/
def Reserved (base p : Path) : Prop :=
  ∃ rest, p = base.extend (indexesComponent :: rest) ∧ rest ≠ [] ∧ (".." : Text) ∉ rest

theorem below_extend (base : Path) (rest : List Text) : Below base (base.extend rest) := ⟨rest, rfl⟩

theorem reserved_extend_iff {rest : List Text} :
    Reserved base (base.extend (indexesComponent :: rest)) ↔ rest ≠ [] ∧ (".." : Text) ∉ rest := by
  constructor
  · rintro ⟨rest', h, hne, hup⟩
    have hrest : rest = rest' := by simpa [Path.extend] using h
    subst hrest
    exact ⟨hne, hup⟩
  · rintro ⟨hne, hup⟩
    exact ⟨rest, rfl, hne, hup⟩

/-! ## The directory of an index -/

theorem indexPath_of_isRelative (h : IsRelative name) :
    indexPath base name = base.extend (indexesComponent :: (Path.parse name).parts) := by
  have hindexes : base.join (Path.parse indexesComponent) = base.extend [indexesComponent] :=
    Path.join_parse_of_isRelative base (by decide)
  rw [indexPath, hindexes, Path.join_parse_of_isRelative _ h, Path.extend_extend]
  rfl

/-- A rooted name is the whole directory. -/
theorem indexPath_of_rooted (h : ¬IsRelative name) : indexPath base name = Path.parse name :=
  Path.join_parse_of_rooted _ h

/-- A directory is in the reserved sub-directory if the name of the index is relative, names something and does not lead
up, or if it is rooted and spells such a directory out. -/
theorem reserved_indexPath_iff :
    Reserved base (indexPath base name) ↔
      (IsRelative name ∧ (Path.parse name).parts ≠ [] ∧ (".." : Text) ∉ (Path.parse name).parts) ∨
        (¬IsRelative name ∧ Reserved base (Path.parse name)) := by
  by_cases h : IsRelative name
  · rw [indexPath_of_isRelative h, reserved_extend_iff]
    simp [h]
  · rw [indexPath_of_rooted h]
    simp [h]

/-! ## The base directory of a table -/

theorem isRelative_tableComponent_iff : IsRelative (tableComponent t) ↔ IsRelative t.name := by
  unfold tableComponent IsRelative
  cases t.name with
  | nil => simp [Text.ofString]; decide
  | cons c cs => simp

/-- The path that the keyspace and the name of a table spell out by themselves. -/
def ownPath (t : Table) : Path := (Path.parse t.keyspace).join (Path.parse (tableComponent t))

theorem baseFor_of_isRelative (d : Directories) (hk : IsRelative t.keyspace) (hn : IsRelative t.name) :
    d.baseFor t = d.data.extend ((Path.parse t.keyspace).parts ++ (Path.parse (tableComponent t)).parts) := by
  rw [baseFor, Path.join_parse_of_isRelative _ hk,
    Path.join_parse_of_isRelative _ (isRelative_tableComponent_iff.mpr hn), Path.extend_extend]

/-- With a rooted name the data directory does not matter. -/
theorem baseFor_of_rooted (d : Directories) (h : ¬(IsRelative t.keyspace ∧ IsRelative t.name)) :
    d.baseFor t = ownPath t := by
  by_cases hn : IsRelative t.name
  · have hk : ¬IsRelative t.keyspace := fun hk => h ⟨hk, hn⟩
    rw [baseFor, ownPath, Path.join_parse_of_rooted _ hk]
  · have hc : ¬IsRelative (tableComponent t) := mt isRelative_tableComponent_iff.mp hn
    rw [baseFor, ownPath, Path.join_parse_of_rooted _ hc, Path.join_parse_of_rooted _ hc]

/-- A base directory is below the data directory if keyspace and name are relative, or if they spell such a directory
out. -/
theorem below_baseFor_iff (d : Directories) (t : Table) :
    Below d.data (d.baseFor t) ↔
      (IsRelative t.keyspace ∧ IsRelative t.name) ∨
        (¬(IsRelative t.keyspace ∧ IsRelative t.name) ∧ Below d.data (ownPath t)) := by
  by_cases h : IsRelative t.keyspace ∧ IsRelative t.name
  · rw [baseFor_of_isRelative d h.1 h.2]
    simp only [h, and_self, true_or, iff_true]
    exact below_extend _ _
  · rw [baseFor_of_rooted d h]
    simp only [h, false_or, not_false_eq_true, true_and]

end Directories

namespace OptionMap

open Directories
open IndexOptions.Path (IsRelative)

variable {σ : Type} {options : OptionMap} {builder : Builder σ}

/-! ## The path of a configuration -/

theorem path_of_naming {t : Table} (i : Index) {naming : Naming} {base : Path}
    (hraw : options.raw .directoryPath = none) (h : naming t = .ok base) :
    (options.path (.known t) (.known i) naming).result = .ok (some (indexPath base i.name)) := by
  unfold path
  rw [hraw]
  simp only [Traced.result_bind, Traced.emit, Traced.of, h]
  rfl

/-- **A derived directory is where the names lead.** Without an option for the directory, resolving gives the path that
is derived from the names. It is in the reserved sub-directory of the table exactly if the name of the index is
relative, names something and does not lead up, or spells such a directory out; and the base directory of the table is
below the data directory exactly if keyspace and table have relative names, or spell such a directory out. -/
theorem derivedPath_reserved_iff {table : Given Table} {index : Given Index} {t : Table} {i : Index} {d : Directories}
    {c : Config σ} (ht : table.identity = .known t) (hi : index.identity = .known i)
    (hraw : options.raw .directoryPath = none)
    (hc : (options.resolve table index d.naming builder).result = .ok c) :
    ∃ p, c.path = some p ∧
      (Reserved (d.baseFor t) p ↔
        (IsRelative i.name ∧ (Path.parse i.name).parts ≠ [] ∧ (".." : Text) ∉ (Path.parse i.name).parts) ∨
          (¬IsRelative i.name ∧ Reserved (d.baseFor t) (Path.parse i.name))) ∧
      (Below d.data (d.baseFor t) ↔
        (IsRelative t.keyspace ∧ IsRelative t.name) ∨
          (¬(IsRelative t.keyspace ∧ IsRelative t.name) ∧ Below d.data (ownPath t))) := by
  rw [result_resolve ht hi] at hc
  have hpath : (options.path (.known t) (.known i) d.naming).result = .ok c.path :=
    (values_eq_ok_iff.mp hc).2.2.2.2.2.2.2.1
  rw [path_of_naming i hraw rfl] at hpath
  exact ⟨_, (Except.ok.inj hpath).symm, reserved_indexPath_iff, below_baseFor_iff d t⟩

/-- The options of an index with a single field. -/
def oneField : OptionMap :=
  [(OptionName.schema.text, "\x7b\"fields\": \x7b\"body\": \x7b\"type\": \"text\"\x7d\x7d\x7d")]

/-- These options resolve to a path, with `/data` as the data directory. -/
def ResolvesTo (t : Table) (i : Index) (p : Path) : Prop :=
  ∃ c, (oneField.resolve (.bare t) (.bare i) dataDirectories.naming schemaBuilder).result = .ok c ∧
    c.path = some p

/-- Only the schema can fail. -/
theorem resolvesTo_indexPath {t : Table} (i : Index)
    (h : (oneField.schema (.known t) schemaBuilder).result.isOk) :
    ResolvesTo t i (indexPath (dataDirectories.baseFor t) i.name) := by
  obtain ⟨s, hs⟩ := exists_of_isOk h
  refine ⟨⟨s, some (indexPath (dataDirectories.baseFor t) i.name), defaultRefreshSeconds,
    defaultRamBufferMb, defaultMaxMergeMb, defaultMaxCachedMb, defaultIndexingThreads, defaultIndexingQueuesSize,
    defaultExcludedDataCenters⟩, ?_, rfl⟩
  rw [result_resolve rfl rfl, values_eq_ok_iff]
  exact ⟨rfl, rfl, rfl, rfl, rfl, rfl, rfl, path_of_naming i rfl rfl, hs⟩

/-- Plain names stay inside. -/
theorem derivedPath_reserved_iff_bareIndex :
    ∃ c p, (oneField.resolve (.bare oneColumn) (.bare bareIndex) dataDirectories.naming
        schemaBuilder).result = .ok c ∧ c.path = some p ∧
      Reserved (dataDirectories.baseFor oneColumn) p ∧
      Below dataDirectories.data (dataDirectories.baseFor oneColumn) := by
  obtain ⟨c, hc, -⟩ := resolvesTo_indexPath (t := oneColumn) bareIndex (by decide +kernel)
  obtain ⟨p, hp, hreserved, hbelow⟩ := derivedPath_reserved_iff rfl rfl rfl hc
  exact ⟨c, p, hc, hp, hreserved.mpr (Or.inl (by decide)), hbelow.mpr (Or.inl (by decide))⟩

/-- A rooted name of an index leaves the reserved sub-directory, one that leads up does too, and a rooted keyspace
leaves the data directory. -/
theorem derivedPath_leaves :
    (ResolvesTo oneColumn ⟨"/etc/cron.d", []⟩ (Path.parse "/etc/cron.d") ∧
        ¬Reserved (dataDirectories.baseFor oneColumn) (Path.parse "/etc/cron.d")) ∧
      (ResolvesTo oneColumn ⟨"..", []⟩ (Path.parse "/data/demo/tweets-00000000000000000000000000000001/lucene/..") ∧
        ¬Reserved (dataDirectories.baseFor oneColumn)
          (Path.parse "/data/demo/tweets-00000000000000000000000000000001/lucene/..")) ∧
      ResolvesTo { oneColumn with keyspace := "/tmp" } bareIndex
          (Path.parse "/tmp/tweets-00000000000000000000000000000001/lucene/tweets_index") ∧
        ¬Below dataDirectories.data
          (dataDirectories.baseFor { oneColumn with keyspace := "/tmp" }) := by
  have hone : (oneField.schema (.known oneColumn) schemaBuilder).result.isOk := by decide +kernel
  refine ⟨⟨resolvesTo_indexPath ⟨"/etc/cron.d", []⟩ hone, ?_⟩, ⟨resolvesTo_indexPath ⟨"..", []⟩ hone, ?_⟩,
    resolvesTo_indexPath bareIndex (by decide +kernel), ?_⟩
  · rintro ⟨rest, h, -⟩
    have hhead : some (Text.ofString "etc") = some (Text.ofString "data") := congrArg (fun p => p.parts.head?) h
    exact absurd hhead (by decide)
  · rintro ⟨rest, h, -, hup⟩
    have hrest : [Text.ofString ".."] = rest := congrArg (fun p => p.parts.drop 4) h
    exact hup (hrest ▸ List.mem_singleton_self _)
  · rintro ⟨rest, h⟩
    have hhead : some (Text.ofString "tmp") = some (Text.ofString "data") := congrArg (fun p => p.parts.head?) h
    exact absurd hhead (by decide)

end OptionMap

end IndexOptions
