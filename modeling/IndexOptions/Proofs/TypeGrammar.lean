import IndexOptions.Proofs.BracketDepth

/-!
# The texts that a mapper supports

A mapper supports a text if going down from its normal form leads to a name that the mapper supports. Which texts these
are is told by a grammar: names, frozen types, lists, sets and maps of such texts (`ColumnType.Generated`). What stands
in the brackets of a map is a matter of its own. Where a key is a balanced text (`ColumnType.IsPair`), the grammar has
the types and nothing else; but the value of a map is found as the last of its arguments, whatever the others are
(`ColumnType.IsLast`).

- `ColumnType.element?_eq_some_iff`: what one step down leads to;
- `ColumnType.reduce_mem_iff`: what all steps together lead to;
- `Mapper.supports_iff_generated`: the supported texts are those of the grammar with the last argument for the value;
- `Mapper.supports_not_generated`: there are more of them than of the grammar with pairs.
-/

namespace IndexOptions

namespace ColumnType

variable {names : List Text} {Holds : Text → Text → Prop} {arguments name t u : Text}

/-! ## The grammar -/

/-- The texts of types over some names; `Holds` says which texts are arguments of a map with which value. -/
inductive Generated (names : List Text) (Holds : Text → Text → Prop) : Text → Prop
  | name {n : Text} : n ∈ names → Generated names Holds n
  | wrapped (w : Wrapper) {t : Text} : Generated names Holds t → Generated names Holds (generic w.word t)
  | map {arguments t : Text} : Holds arguments t → Generated names Holds t →
    Generated names Holds (generic mapWord arguments)

/-- A key and a value: the key is not empty, its brackets match, and no comma of it is outside of them. -/
def IsPair (arguments value : Text) : Prop :=
  ∃ key, arguments = key ++ CodePoint.ofChar ',' :: value ∧ key ≠ [] ∧ Balanced key ∧ Uncut 0 key

/-- The value is the last argument: the only one, or what stands behind a comma where there are as many closing as
opening brackets before. -/
def IsLast (arguments value : Text) : Prop :=
  Uncut 0 value ∧
    (arguments = value ∨
      ∃ before, arguments = before ++ CodePoint.ofChar ',' :: value ∧ depthFrom 0 before = 0)

/-! ## Going down -/

theorem getLast?_splitTopLevel_eq_some_iff : (splitTopLevel arguments).getLast? = some u ↔ IsLast arguments u := by
  rw [splitTopLevel, getLast?_splitFrom_eq_some_iff]
  constructor
  · rintro (⟨rfl, hu⟩ | ⟨before, h, hbefore, hu⟩)
    · exact ⟨hu, Or.inl rfl⟩
    · exact ⟨hu, Or.inr ⟨before, h, hbefore⟩⟩
  · rintro ⟨hu, rfl | ⟨before, h, hbefore⟩⟩
    · exact Or.inl ⟨rfl, hu⟩
    · exact Or.inr ⟨before, h, hbefore, hu⟩

theorem element?_eq_some_iff :
    element? t = some u ↔
      (∃ w : Wrapper, t = generic w.word u) ∨
        ∃ arguments, t = generic mapWord arguments ∧ IsLast arguments u := by
  constructor
  · intro h
    obtain ⟨body, hbody, h⟩ := Option.bind_eq_some_iff.mp h
    rw [closed?_eq_some_iff.mp hbody]
    have hwrappers : ∀ word ∈ wrappers, ∃ w : Wrapper, word = w.word ++ [CodePoint.ofChar '<'] := by
      intro word hword
      have hwords : wrappers = Wrapper.all.map fun w => w.word ++ [CodePoint.ofChar '<'] := by decide
      obtain ⟨w, -, rfl⟩ := List.mem_map.mp (hwords ▸ hword)
      exact ⟨w, rfl⟩
    split at h
    · next argument hw =>
      obtain ⟨word, hword, ha⟩ := List.exists_of_findSome?_eq_some hw
      obtain ⟨w, rfl⟩ := hwrappers word hword
      cases h
      exact Or.inl ⟨w, by rw [Text.after?_eq_some_iff.mp ha]; simp [generic]⟩
    · obtain ⟨arguments, ha, hu⟩ := Option.bind_eq_some_iff.mp h
      refine Or.inr ⟨arguments, ?_, getLast?_splitTopLevel_eq_some_iff.mp hu⟩
      have hword : Text.ofString "map<" = mapWord ++ [CodePoint.ofChar '<'] := rfl
      rw [Text.after?_eq_some_iff.mp ha, hword]
      simp [generic]
  · rintro (⟨w, rfl⟩ | ⟨arguments, rfl, h⟩)
    · exact element?_wrapped w u
    · rw [element?_generic (isMark_of_mem_standIns mapWord_mem_standIns), if_neg (by decide), if_pos rfl]
      exact getLast?_splitTopLevel_eq_some_iff.mpr h

theorem generated_of_reduceFrom {fuel : Nat} (h : reduceFrom fuel t ∈ names) : Generated names IsLast t := by
  induction fuel generalizing t with
  | zero => exact .name h
  | succ fuel ih =>
    rw [reduceFrom] at h
    split at h
    · next u hu =>
      rcases element?_eq_some_iff.mp hu with ⟨w, rfl⟩ | ⟨arguments, rfl, harguments⟩
      · exact .wrapped w (ih h)
      · exact .map harguments (ih h)
    · exact .name h

/-- Texts of the grammar are led down to the names, which lead no further. -/
theorem reduce_mem_iff (hnames : ∀ n ∈ names, element? n = none) : reduce t ∈ names ↔ Generated names IsLast t := by
  constructor
  · exact generated_of_reduceFrom
  · intro h
    induction h with
    | name hn => rwa [reduce_of_element?_eq_none (hnames _ hn)]
    | wrapped w _ ih => rwa [reduce_of_element? (element?_wrapped w _)]
    | map harguments _ ih => rwa [reduce_of_element? (element?_eq_some_iff.mpr (Or.inr ⟨_, rfl, harguments⟩))]

/-! ## Telling that a text is not of the grammar -/

/-- A pair is cut at a comma behind a key. -/
theorem IsPair.exists_key (h : IsPair arguments u) :
    ∃ key ∈ arguments.inits, key ++ [CodePoint.ofChar ','] ∈ arguments.inits ∧ key ≠ [] ∧ Balanced key ∧ Uncut 0 key ∧
      u = arguments.drop (key.length + 1) := by
  obtain ⟨key, rfl, hne, hbalanced, huncut⟩ := h
  refine ⟨key, (List.mem_inits _ _).mpr (List.prefix_append _ _), (List.mem_inits _ _).mpr ⟨u, by simp⟩, hne,
    hbalanced, huncut, by simp⟩

theorem getLast?_generic (name arguments : Text) :
    (generic name arguments).getLast? = some (CodePoint.ofChar '>') := by
  rw [closed?_eq_some_iff.mp (closed?_generic name arguments), List.getLast?_concat]

/-- What is no name ends with a closing bracket. -/
theorem mem_or_getLast?_of_generated (h : Generated names Holds t) :
    t ∈ names ∨ t.getLast? = some (CodePoint.ofChar '>') := by
  cases h with
  | name hn => exact Or.inl hn
  | wrapped => exact Or.inr (getLast?_generic _ _)
  | map => exact Or.inr (getLast?_generic _ _)

theorem generic_inj {name' arguments' : Text} (hn : name ∈ standIns) (hn' : name' ∈ standIns)
    (h : generic name arguments = generic name' arguments') : name = name' ∧ arguments = arguments' := by
  have hopen : CodePoint.ofChar '<' ∉ name := open_not_mem (isMark_of_mem_standIns hn)
  have hopen' : CodePoint.ofChar '<' ∉ name' := open_not_mem (isMark_of_mem_standIns hn')
  have hbody : name ++ CodePoint.ofChar '<' :: arguments = name' ++ CodePoint.ofChar '<' :: arguments' :=
    Option.some.inj ((closed?_generic _ _).symm.trans ((congrArg closed? h).trans (closed?_generic _ _)))
  have hafter := after?_word hopen hopen arguments
  rw [if_pos rfl, hbody, after?_word hopen hopen'] at hafter
  split at hafter
  · next hname => exact ⟨hname, (Option.some.inj hafter).symm⟩
  · cases hafter

/-- A map of the grammar has a value of the grammar. -/
theorem exists_of_generated_map (hnames : ∀ n ∈ names, ∀ c ∈ n, isMark c = false)
    (h : Generated names Holds (generic mapWord arguments)) :
    ∃ value, Holds arguments value ∧ Generated names Holds value := by
  generalize ht : generic mapWord arguments = t at h
  cases h with
  | name hn =>
    have hopen : CodePoint.ofChar '<' ∈ t := by
      rw [← ht]
      simp [generic]
    exact absurd (hnames t hn _ hopen) (by decide)
  | wrapped w h =>
    obtain ⟨hword, -⟩ := generic_inj mapWord_mem_standIns w.word_mem_standIns ht
    cases w <;> exact absurd hword (by decide)
  | map harguments h =>
    obtain ⟨-, rfl⟩ := generic_inj mapWord_mem_standIns mapWord_mem_standIns ht
    exact ⟨_, harguments, h⟩

end ColumnType

/-! ## Supported texts -/

namespace Mapper

open ColumnType

/-- The names of types have no marks; they do not hang on the properties of a mapping. -/
theorem isMark_of_mem_supportedTypes (m : Mapper) : ∀ n ∈ m.supportedTypes, ∀ c ∈ n, isMark c = false := by
  have hplain : ∀ type : PlainType, ∀ n ∈ type.supportedTypes, ∀ c ∈ n, isMark c = false := by
    intro type
    cases type <;> decide
  obtain ⟨validated, mapping⟩ := m
  cases mapping with
  | string => exact (by decide : ∀ n ∈ supportedTypes ⟨false, .string none false⟩, ∀ c ∈ n, isMark c = false)
  | text => exact (by decide : ∀ n ∈ supportedTypes ⟨false, .text none none⟩, ∀ c ∈ n, isMark c = false)
  | date => exact (by decide : ∀ n ∈ supportedTypes ⟨false, .date none []⟩, ∀ c ∈ n, isMark c = false)
  | plain type => exact hplain type
  | geoPoint => exact (by decide : ∀ n ∈ supportedTypes ⟨false, .geoPoint [] [] 0⟩, ∀ c ∈ n, isMark c = false)

/-- **The supported texts are those of a grammar.** A mapper supports a text exactly if the text, without blanks and in
lower case, is one of the names that the mapper supports, or a frozen type, a list or a set of such a text, or a map
whose last argument is such a text. -/
theorem supports_iff_generated (m : Mapper) (type : Text) :
    m.supports type ↔ Generated m.supportedTypes IsLast (normal type) := by
  have hnames : ∀ n ∈ m.supportedTypes, element? n = none :=
    fun n hn => element?_name (isMark_of_mem_supportedTypes m n hn)
  rw [supports, List.contains_iff_mem, base, reduce_mem_iff hnames]

/-- A mapper of integers. -/
def anyInteger : Mapper := ⟨false, .plain .integer none⟩

/-- **Not only types are supported**: a mapper of integers supports a map without a key, one with an empty key, one with
an argument too many, and one whose key closes a bracket before it opens one. -/
theorem supports_not_generated :
    (anyInteger.supports "map<int>" ∧ ¬Generated anyInteger.supportedTypes IsPair (normal "map<int>")) ∧
    (anyInteger.supports "map<,int>" ∧ ¬Generated anyInteger.supportedTypes IsPair (normal "map<,int>")) ∧
    (anyInteger.supports "map<uuid,uuid,int>" ∧
      ¬Generated anyInteger.supportedTypes IsPair (normal "map<uuid,uuid,int>")) ∧
    (anyInteger.supports "map<a>b<,int>" ∧ ¬Generated anyInteger.supportedTypes IsPair (normal "map<a>b<,int>")) := by
  have hpair : ∀ (arguments : Text) {type : Text}, normal type = generic mapWord arguments →
      Generated anyInteger.supportedTypes IsPair (normal type) →
      ∃ value, IsPair arguments value ∧ Generated anyInteger.supportedTypes IsPair value := by
    intro arguments type htype h
    exact exists_of_generated_map (isMark_of_mem_supportedTypes _) (htype ▸ h)
  refine ⟨⟨by decide +kernel, fun h => ?_⟩, ⟨by decide +kernel, fun h => ?_⟩, ⟨by decide +kernel, fun h => ?_⟩,
    by decide +kernel, fun h => ?_⟩
  · obtain ⟨value, hvalue, -⟩ := hpair "int" (by decide +kernel) h
    obtain ⟨key, hkey, hcomma, -⟩ := hvalue.exists_key
    revert key
    decide
  · obtain ⟨value, hvalue, -⟩ := hpair ",int" (by decide +kernel) h
    obtain ⟨key, hkey, hcomma, hne, -⟩ := hvalue.exists_key
    revert key
    decide
  · obtain ⟨value, hvalue, hgenerated⟩ := hpair "uuid,uuid,int" (by decide +kernel) h
    obtain ⟨key, hkey, hcomma, -, -, huncut, rfl⟩ := hvalue.exists_key
    have hends := mem_or_getLast?_of_generated hgenerated
    clear hgenerated hvalue
    revert key
    decide
  · obtain ⟨value, hvalue, -⟩ := hpair "a>b<,int" (by decide +kernel) h
    obtain ⟨key, hkey, hcomma, -, hbalanced, -⟩ := hvalue.exists_key
    revert key
    decide

end Mapper

end IndexOptions
