import IndexOptions.Schema.Mapper
import IndexOptions.Proofs.LowerCase

/-!
# Column types as trees

A column type is a name, a name with arguments in angle brackets, or one of the four that stand for another type: frozen
types, lists, sets and maps. `Tree.text` is its text and `Tree.element` the type that its values hold in the end, read
off the tree.

* **Texts.** `ColumnType.base` works on texts alone: it looks at the ends, cuts and counts brackets. The brackets of a
  tree are balanced, so a comma inside one of its arguments is never taken for the comma between two of them
  (`passes_text`), and each cut gives exactly the text of a part (`element?_wrapped`, `element?_map`).
* **Spelling.** Blanks and the case of ASCII letters are free (`Text.Written`). Marks end every word, so the lower-case
  form of a type is put together from those of its parts (`lower_generic`, `lower_mark`).

Hence the base type of a text is the element type of its tree (`base_of_written`).
-/

namespace IndexOptions.ColumnType

/-! ## Trees -/

/-- The code points that separate the parts of a type. -/
def isMark (c : CodePoint) : Bool := c = '<' || c = '>' || c = ','

/-- The name of a type: a text without blanks and marks. -/
structure Name where
  text : Text
  ne_nil : text ≠ []
  isBlank_eq_false : ∀ c ∈ text, c.isBlank = false
  isMark_eq_false : ∀ c ∈ text, isMark c = false

/-- The types that stand for their one argument. -/
inductive Wrapper where
  | frozen
  | list
  | set

def Wrapper.word : Wrapper → Text
  | frozen => "frozen"
  | list => "list"
  | set => "set"

def Wrapper.all : List Wrapper := [frozen, list, set]

def mapWord : Text := "map"

/-- The names of the types that stand for another one. -/
def standIns : List Text := mapWord :: Wrapper.all.map Wrapper.word

theorem mapWord_mem_standIns : mapWord ∈ standIns := List.mem_cons_self

theorem Wrapper.word_mem_standIns (w : Wrapper) : w.word ∈ standIns := by
  cases w <;> decide

inductive Tree where
  | name (n : Name)
  | wrapped (w : Wrapper) (argument : Tree)
  | map (key value : Tree)
  | other (n : Name) (h : n.text.lower ∉ standIns) (arguments : List Tree)

/-- A name with a text in angle brackets. -/
def generic (name arguments : Text) : Text := name ++ CodePoint.ofChar '<' :: (arguments ++ [CodePoint.ofChar '>'])

mutual

/-- The text of a type. -/
def Tree.text : Tree → Text
  | .name n => n.text
  | .wrapped w argument => generic w.word argument.text
  | .map key value => generic mapWord (key.text ++ CodePoint.ofChar ',' :: value.text)
  | .other n _ arguments => generic n.text (argumentsText arguments)

/-- The texts of types with commas between them. -/
def argumentsText : List Tree → Text
  | [] => []
  | [t] => t.text
  | t :: u :: r => t.text ++ CodePoint.ofChar ',' :: argumentsText (u :: r)

end

/-- The type of the values that a column holds in the end: frozen types, lists and sets hold those of their argument and
maps their values; any other type stands for itself. -/
def Tree.element : Tree → Text
  | .name n => n.text.lower
  | .wrapped _ argument => argument.element
  | .map _ value => value.element
  | .other n _ arguments => (generic n.text (argumentsText arguments)).lower

/-! ## Blanks -/

/-- The words for types that stand for another one have no blanks. -/
theorem isBlank_of_mem_standIns {name : Text} (h : name ∈ standIns) : ∀ c ∈ name, c.isBlank = false := by
  revert name
  decide

/-- Marks are no blanks. -/
theorem isBlank_mark {c : CodePoint} (h : isMark c) : c.isBlank = false := by
  simp only [isMark, Bool.or_eq_true, decide_eq_true_eq] at h
  rcases h with (rfl | rfl) | rfl <;> decide

theorem isBlank_generic {name arguments : Text} (hn : ∀ c ∈ name, c.isBlank = false)
    (ha : ∀ c ∈ arguments, c.isBlank = false) : ∀ c ∈ generic name arguments, c.isBlank = false := by
  intro c hc
  simp only [generic, List.mem_append, List.mem_cons, List.not_mem_nil, or_false] at hc
  rcases hc with hc | rfl | hc | rfl
  · exact hn c hc
  · exact isBlank_mark (by decide)
  · exact ha c hc
  · exact isBlank_mark (by decide)

theorem isBlank_comma {t u : Text} (ht : ∀ c ∈ t, c.isBlank = false) (hu : ∀ c ∈ u, c.isBlank = false) :
    ∀ c ∈ t ++ CodePoint.ofChar ',' :: u, c.isBlank = false := by
  intro c hc
  simp only [List.mem_append, List.mem_cons] at hc
  rcases hc with hc | rfl | hc
  · exact ht c hc
  · exact isBlank_mark (by decide)
  · exact hu c hc

mutual

/-- The text of a type has no blanks. -/
theorem isBlank_text : ∀ t : Tree, ∀ c ∈ t.text, c.isBlank = false
  | .name n => by
    rw [Tree.text]
    exact n.isBlank_eq_false
  | .wrapped w argument => by
    rw [Tree.text]
    exact isBlank_generic (isBlank_of_mem_standIns w.word_mem_standIns) (isBlank_text argument)
  | .map key value => by
    rw [Tree.text]
    exact isBlank_generic (isBlank_of_mem_standIns mapWord_mem_standIns)
      (isBlank_comma (isBlank_text key) (isBlank_text value))
  | .other n _ arguments => by
    rw [Tree.text]
    exact isBlank_generic n.isBlank_eq_false (isBlank_argumentsText arguments)

theorem isBlank_argumentsText : ∀ ts : List Tree, ∀ c ∈ argumentsText ts, c.isBlank = false
  | [] => by simp [argumentsText]
  | [t] => by
    rw [argumentsText]
    exact isBlank_text t
  | t :: u :: r => by
    rw [argumentsText]
    exact isBlank_comma (isBlank_text t) (isBlank_argumentsText (u :: r))

end

/-! ## Lower case -/

/-- A mark ends every word and is its own lower-case form. -/
theorem breaksWord_mark {c : CodePoint} (h : isMark c) : c.breaksWord ∧ c.lower = [c] := by
  simp only [isMark, Bool.or_eq_true, decide_eq_true_eq] at h
  rcases h with (rfl | rfl) | rfl <;> decide +kernel

/-- The two sides of a mark are lowered by themselves. -/
theorem lower_mark {c : CodePoint} (h : isMark c) (t r : Text) : (t ++ c :: r).lower = t.lower ++ c :: r.lower := by
  obtain ⟨hbreaks, hlower⟩ := breaksWord_mark h
  rw [Text.lower_append_of_breaksWord hbreaks, hlower]
  rfl

theorem lower_generic (name arguments : Text) :
    (generic name arguments).lower = generic name.lower arguments.lower := by
  unfold generic
  rw [lower_mark (by decide), lower_mark (by decide)]
  rfl

/-- The words for types that stand for another one are in lower case. -/
theorem lower_of_mem_standIns {name : Text} (h : name ∈ standIns) : name.lower = name := by
  revert name
  decide +kernel

/-- Lowering makes no marks: what it makes is past the ASCII capitals. -/
theorem isMark_lower {t : Text} (h : ∀ c ∈ t, isMark c = false) : ∀ c ∈ t.lower, isMark c = false := by
  intro c hc
  by_cases hsmall : c.val < 97
  · exact h c (Text.mem_of_mem_lower hc hsmall)
  · apply Bool.eq_false_iff.mpr
    intro hm
    simp only [isMark, Bool.or_eq_true, decide_eq_true_eq] at hm
    rcases hm with (rfl | rfl) | rfl <;> exact hsmall (by decide)

/-! ## Commas at the top level -/

/-- Cutting at a depth goes past a text: no comma of it counts, and it leaves the depth as it is. -/
def Passes (depth : Int) (t : Text) : Prop := ∀ r, splitFrom depth (t ++ r) = t.foldr prepend (splitFrom depth r)

theorem foldr_prepend_cons (t p : Text) (ps : List Text) : t.foldr prepend (p :: ps) = (t ++ p) :: ps := by
  induction t with
  | nil => rfl
  | cons c t ih => rw [List.foldr_cons, ih]; rfl

theorem passes_append {depth : Int} {t u : Text} (ht : Passes depth t) (hu : Passes depth u) :
    Passes depth (t ++ u) := by
  intro r
  rw [List.append_assoc, ht, hu, List.foldr_append]

/-- A name is passed at every depth. -/
theorem passes_of_isMark_eq_false {depth : Int} {t : Text} (h : ∀ c ∈ t, isMark c = false) : Passes depth t := by
  intro r
  induction t with
  | nil => rfl
  | cons c t ih =>
    have hc := h c List.mem_cons_self
    simp only [isMark, Bool.or_eq_false_iff, decide_eq_false_iff_not] at hc
    obtain ⟨⟨hopen, hclose⟩, hcomma⟩ := hc
    rw [List.cons_append, splitFrom, if_neg (by simp [hcomma]), depthAfter, if_neg hopen, if_neg hclose,
      ih fun c hc => h c (List.mem_cons_of_mem _ hc)]
    rfl

/-- Inside of a pair of brackets commas do not count. -/
theorem passes_comma {depth : Int} (h : 0 < depth) {t u : Text} (ht : Passes depth t) (hu : Passes depth u) :
    Passes depth (t ++ CodePoint.ofChar ',' :: u) := by
  have hcomma : Passes depth [CodePoint.ofChar ','] := by
    intro r
    have hdepth : depth ≠ 0 := by omega
    rw [List.cons_append, splitFrom, if_neg (by simp [hdepth])]
    rfl
  exact passes_append ht (passes_append hcomma hu)

/-- A name with arguments is passed if the arguments are, one level deeper. -/
theorem passes_generic {depth : Int} {name arguments : Text} (hn : ∀ c ∈ name, isMark c = false)
    (ha : Passes (depth + 1) arguments) : Passes depth (generic name arguments) := by
  have hbrackets : Passes depth (CodePoint.ofChar '<' :: (arguments ++ [CodePoint.ofChar '>'])) := by
    intro r
    have hopen : ∀ s, splitFrom depth (CodePoint.ofChar '<' :: s) =
        prepend (CodePoint.ofChar '<') (splitFrom (depth + 1) s) := fun s => rfl
    have hclose : ∀ s, splitFrom (depth + 1) (CodePoint.ofChar '>' :: s) =
        prepend (CodePoint.ofChar '>') (splitFrom depth s) := by
      intro s
      have hne : CodePoint.ofChar '>' ≠ CodePoint.ofChar ',' := by decide
      have hdepth : depthAfter (depth + 1) (CodePoint.ofChar '>') = depth := Int.add_sub_cancel depth 1
      rw [splitFrom, if_neg (by simp [hne]), hdepth]
    rw [List.cons_append, hopen, List.append_assoc, ha, List.singleton_append, hclose, List.foldr_cons,
      List.foldr_append]
    rfl
  exact passes_append (passes_of_isMark_eq_false hn) hbrackets

theorem isMark_of_mem_standIns {name : Text} (h : name ∈ standIns) : ∀ c ∈ name, isMark c = false := by
  revert name
  decide

mutual

/-- No comma in the text of a type is at its top level, and its brackets are balanced. -/
theorem passes_text : ∀ (t : Tree) {depth : Int}, 0 ≤ depth → Passes depth t.text.lower
  | .name n, _, _ => by
    rw [Tree.text]
    exact passes_of_isMark_eq_false (isMark_lower n.isMark_eq_false)
  | .wrapped w argument, _, h => by
    rw [Tree.text, lower_generic, lower_of_mem_standIns w.word_mem_standIns]
    exact passes_generic (isMark_of_mem_standIns w.word_mem_standIns) (passes_text argument (by omega))
  | .map key value, _, h => by
    rw [Tree.text, lower_generic, lower_of_mem_standIns mapWord_mem_standIns, lower_mark (by decide)]
    exact passes_generic (isMark_of_mem_standIns mapWord_mem_standIns)
      (passes_comma (by omega) (passes_text key (by omega)) (passes_text value (by omega)))
  | .other n _ arguments, _, h => by
    rw [Tree.text, lower_generic]
    exact passes_generic (isMark_lower n.isMark_eq_false) (passes_argumentsText arguments (by omega))

theorem passes_argumentsText : ∀ (ts : List Tree) {depth : Int}, 0 < depth → Passes depth (argumentsText ts).lower
  | [], _, _ => fun _ => rfl
  | [t], _, h => by
    rw [argumentsText]
    exact passes_text t (by omega)
  | t :: u :: r, _, h => by
    rw [argumentsText, lower_mark (by decide)]
    exact passes_comma h (passes_text t (by omega)) (passes_argumentsText (u :: r) h)

end

/-- What is passed is one piece. -/
theorem splitFrom_eq_singleton {depth : Int} {t : Text} (h : Passes depth t) : splitFrom depth t = [t] := by
  have := h []
  rw [List.append_nil] at this
  rw [this, splitFrom, foldr_prepend_cons, List.append_nil]

/-- The comma between two arguments is the one at which they are cut. -/
theorem splitTopLevel_comma {t u : Text} (ht : Passes 0 t) (hu : Passes 0 u) :
    splitTopLevel (t ++ CodePoint.ofChar ',' :: u) = [t, u] := by
  have hcomma : splitFrom 0 (CodePoint.ofChar ',' :: u) = [] :: splitFrom 0 u := rfl
  rw [splitTopLevel, ht, hcomma, foldr_prepend_cons, List.append_nil, splitFrom_eq_singleton hu]

/-! ## Types that stand for another one -/

theorem closed?_generic (name arguments : Text) :
    closed? (generic name arguments) = some (name ++ CodePoint.ofChar '<' :: arguments) :=
  closed?_eq_some_iff.mpr (by simp [generic])

/-- A word with an opening bracket begins a text that begins with it, and no other name. -/
theorem after?_word {word name : Text} (hw : CodePoint.ofChar '<' ∉ word) (hn : CodePoint.ofChar '<' ∉ name)
    (r : Text) :
    Text.after? (word ++ [CodePoint.ofChar '<']) (name ++ CodePoint.ofChar '<' :: r) =
      if word = name then some r else none := by
  induction word generalizing name with
  | nil =>
    cases name with
    | nil => simp [Text.after?]
    | cons d name =>
      have hd : CodePoint.ofChar '<' ≠ d := fun h => hn (h ▸ List.mem_cons_self)
      simp [Text.after?, hd]
  | cons c word ih =>
    simp only [List.mem_cons, not_or] at hw
    cases name with
    | nil => simp [Text.after?, Ne.symm hw.1]
    | cons d name =>
      simp only [List.mem_cons, not_or] at hn
      rw [List.cons_append, List.cons_append, Text.after?, ih hw.2 hn.2]
      by_cases hcd : c = d <;> simp [hcd]

theorem open_not_mem {t : Text} (h : ∀ c ∈ t, isMark c = false) : CodePoint.ofChar '<' ∉ t := fun hm =>
  absurd (h _ hm) (by decide)

/-- Of the wrappers at most one begins a text, the one that is its name. -/
theorem findSome?_word {name : Text} (hn : ∀ c ∈ name, isMark c = false) (arguments : Text) (ws : List Wrapper) :
    (ws.findSome? fun w => Text.after? (w.word ++ [CodePoint.ofChar '<']) (name ++ CodePoint.ofChar '<' :: arguments)) =
      if name ∈ ws.map Wrapper.word then some arguments else none := by
  induction ws with
  | nil => rfl
  | cons w ws ih =>
    have hopen : CodePoint.ofChar '<' ∉ w.word := open_not_mem (isMark_of_mem_standIns w.word_mem_standIns)
    rw [List.findSome?_cons, after?_word hopen (open_not_mem hn), ih, List.map_cons]
    by_cases hw : w.word = name
    · rw [if_pos hw, if_pos (List.mem_cons.mpr (Or.inl hw.symm))]
    · rw [if_neg hw]
      simp only [List.mem_cons, Ne.symm hw, false_or]

/-- The element type of a name with arguments depends on the name. -/
theorem element?_generic {name : Text} (hn : ∀ c ∈ name, isMark c = false) (arguments : Text) :
    element? (generic name arguments) =
      if name ∈ Wrapper.all.map Wrapper.word then some arguments
      else if name = mapWord then (splitTopLevel arguments).getLast? else none := by
  have hwords : wrappers = Wrapper.all.map fun w => w.word ++ [CodePoint.ofChar '<'] := by decide
  have hmap : Text.after? "map<" (name ++ CodePoint.ofChar '<' :: arguments) =
      if mapWord = name then some arguments else none :=
    after?_word (open_not_mem (isMark_of_mem_standIns mapWord_mem_standIns)) (open_not_mem hn) arguments
  unfold element?
  rw [closed?_generic, Option.bind_some, hwords, List.findSome?_map, hmap]
  have hwrappers := findSome?_word hn arguments Wrapper.all
  simp only [Function.comp_def, hwrappers]
  by_cases hw : name ∈ Wrapper.all.map Wrapper.word
  · rw [if_pos hw, if_pos hw]
  · rw [if_neg hw, if_neg hw]
    by_cases hm : name = mapWord
    · rw [if_pos hm, if_pos hm.symm, Option.bind_some]
    · rw [if_neg hm, if_neg (Ne.symm hm), Option.bind_none]

/-- A wrapper stands for its argument. -/
theorem element?_wrapped (w : Wrapper) (argument : Text) : element? (generic w.word argument) = some argument := by
  rw [element?_generic (isMark_of_mem_standIns w.word_mem_standIns), if_pos (by cases w <;> decide)]

/-- A map stands for its values, whatever its keys are. -/
theorem element?_map {key value : Text} (hk : Passes 0 key) (hv : Passes 0 value) :
    element? (generic mapWord (key ++ CodePoint.ofChar ',' :: value)) = some value := by
  rw [element?_generic (isMark_of_mem_standIns mapWord_mem_standIns), if_neg (by decide), if_pos rfl,
    splitTopLevel_comma hk hv]
  rfl

/-- A name with arguments that stands for no other type has no element type. -/
theorem element?_other {name : Text} (hn : ∀ c ∈ name, isMark c = false) (h : name ∉ standIns) (arguments : Text) :
    element? (generic name arguments) = none := by
  obtain ⟨hmap, hwrappers⟩ := not_or.mp (mt List.mem_cons.mpr h)
  rw [element?_generic hn, if_neg hwrappers, if_neg hmap]

/-- A name alone has none either. -/
theorem element?_name {name : Text} (hn : ∀ c ∈ name, isMark c = false) : element? name = none := by
  have hclosed : closed? name = none := by
    apply Option.eq_none_iff_forall_ne_some.mpr
    intro body hbody
    have hlast : CodePoint.ofChar '>' ∈ name := by
      rw [closed?_eq_some_iff.mp hbody]
      simp
    exact absurd (hn _ hlast) (by decide)
  rw [element?, hclosed]
  rfl

/-! ## Going down to the elements -/

/-- Fuel beyond the length of the text changes nothing. -/
theorem reduceFrom_congr {m n : Nat} {t : Text} (hm : t.length ≤ m) (hn : t.length ≤ n) :
    reduceFrom m t = reduceFrom n t := by
  induction m generalizing n t with
  | zero =>
    rw [List.eq_nil_of_length_eq_zero (Nat.le_zero.mp hm)]
    cases n <;> rfl
  | succ m ih =>
    cases n with
    | zero =>
      rw [List.eq_nil_of_length_eq_zero (Nat.le_zero.mp hn)]
      rfl
    | succ n =>
      rw [reduceFrom, reduceFrom]
      split
      · next u hu =>
        have := length_lt_of_element? hu
        exact ih (by omega) (by omega)
      · rfl

/-- One step down leads to the same end. -/
theorem reduce_of_element? {t u : Text} (h : element? t = some u) : reduce t = reduce u := by
  have hu := length_lt_of_element? h
  obtain ⟨n, hn⟩ : ∃ n, t.length = n + 1 := ⟨t.length - 1, by omega⟩
  have hstep : reduce t = reduceFrom n u := by rw [reduce, hn, reduceFrom, h]
  rw [hstep]
  exact reduceFrom_congr (by omega) (Nat.le_refl _)

theorem reduce_of_element?_eq_none {t : Text} (h : element? t = none) : reduce t = t := by
  unfold reduce
  cases t.length with
  | zero => rfl
  | succ n => rw [reduceFrom, h]

/-- The text of a type in lower case is reduced to its element type. -/
theorem reduce_lower_text : ∀ t : Tree, reduce t.text.lower = t.element
  | .name n => by
    rw [Tree.text, Tree.element]
    exact reduce_of_element?_eq_none (element?_name (isMark_lower n.isMark_eq_false))
  | .wrapped w argument => by
    rw [Tree.text, Tree.element, lower_generic, lower_of_mem_standIns w.word_mem_standIns,
      reduce_of_element? (element?_wrapped w _)]
    exact reduce_lower_text argument
  | .map key value => by
    rw [Tree.text, Tree.element, lower_generic, lower_of_mem_standIns mapWord_mem_standIns, lower_mark (by decide),
      reduce_of_element? (element?_map (passes_text key (Int.le_refl 0)) (passes_text value (Int.le_refl 0)))]
    exact reduce_lower_text value
  | .other n h arguments => by
    rw [Tree.text, Tree.element, lower_generic]
    exact reduce_of_element?_eq_none (element?_other (isMark_lower n.isMark_eq_false) h _)

/-- **The base type of a text is the element type of its tree**, however deep the tree is and however its text is
written; so a mapper supports a column exactly if it supports this element type. -/
theorem base_of_written (t : Tree) {written : Text} (h : Text.Written t.text written) :
    base written = t.element ∧ ∀ m : Mapper, m.supports written ↔ t.element ∈ m.supportedTypes := by
  have hbase : base written = t.element := by
    rw [base, normal, Text.lower_eq_of_written h (isBlank_text t), reduce_lower_text]
  refine ⟨hbase, fun m => ?_⟩
  rw [Mapper.supports, hbase, List.contains_iff_mem]

/-- A map from pairs, which hold a map of their own, to frozen lists of texts. -/
def pairsToTexts : Tree :=
  .map
    (.other ⟨"Tuple", by decide, by decide, by decide⟩ (by decide +kernel)
      [.name ⟨"int", by decide, by decide, by decide⟩,
        .map (.name ⟨"text", by decide, by decide, by decide⟩) (.name ⟨"blob", by decide, by decide, by decide⟩)])
    (.wrapped .frozen (.wrapped .list (.name ⟨"varchar", by decide, by decide, by decide⟩)))

theorem base_of_written_pairsToTexts :
    Text.Written pairsToTexts.text " MAP<tu ple <int, map<text,blob>> ,Frozen< List<VarChar>> >\t" ∧
      base " MAP<tu ple <int, map<text,blob>> ,Frozen< List<VarChar>> >\t" = "varchar" ∧
      Mapper.supports ⟨false, .text none none⟩ " MAP<tu ple <int, map<text,blob>> ,Frozen< List<VarChar>> >\t" := by
  have h : Text.Written pairsToTexts.text " MAP<tu ple <int, map<text,blob>> ,Frozen< List<VarChar>> >\t" :=
    (Text.written_iff (isBlank_text pairsToTexts)).mpr (by decide +kernel)
  obtain ⟨hbase, hsupports⟩ := base_of_written pairsToTexts h
  exact ⟨h, hbase.trans (by decide +kernel), (hsupports _).mpr (by decide +kernel)⟩

end IndexOptions.ColumnType
