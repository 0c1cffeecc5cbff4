import IndexOptions.Uuid.Reader
import Mathlib.Algebra.Group.Nat.Defs
import Mathlib.Data.List.Basic

/-!
# Identifiers and their texts

The 32 digits of an identifier are the only ones (`Uuid.hex_injective`), and it is read again from its digits, alone
(`Uuid.parse_hex`) or in groups with dashes between them (`Uuid.parse_text`). Neither text begins like one of the
wrapped forms, since both begin with a digit (`Uuid.unwrapped?_of_digit`).
-/

namespace IndexOptions

namespace Text

variable {sep : CodePoint}

/-! ## Digits -/

/-- A digit is read back from how it is written. -/
theorem hexValue?_ofHexDigit {n : Nat} (h : n < 16) : (CodePoint.ofHexDigit n).hexValue? = some n := by
  have hall : ∀ k < 16, (CodePoint.ofHexDigit k).hexValue? = some k := by decide
  exact hall n h

/-- A number is written with hexadecimal digits only. -/
theorem exists_digit_of_mem_hex {width n : Nat} {c : CodePoint} (h : c ∈ hex width n) :
    ∃ d < 16, c = CodePoint.ofHexDigit d := by
  induction width generalizing n with
  | zero => cases h
  | succ width ih =>
    rcases List.mem_append.mp h with h | h
    · exact ih h
    · exact ⟨n % 16, Nat.mod_lt _ (by decide), List.mem_singleton.mp h⟩

/-- A code point that is no digit is not among the digits. -/
theorem not_mem_hex {width n : Nat} (h : sep.hexValue? = none) : sep ∉ hex width n := by
  intro hmem
  obtain ⟨d, hd, rfl⟩ := exists_digit_of_mem_hex hmem
  rw [hexValue?_ofHexDigit hd] at h
  cases h

/-! ## Dropping separators -/

/-- Without the separators, the pieces follow each other. -/
theorem filter_join {ps : List Text} (h : ∀ p ∈ ps, sep ∉ p) :
    (join [sep] ps).filter (fun c => c ≠ sep) = ps.flatten := by
  have hself : ∀ p ∈ ps, p.filter (fun c => c ≠ sep) = p := fun p hp =>
    List.filter_eq_self.mpr fun c hc => by simpa using ne_of_mem_of_not_mem hc (h p hp)
  induction ps with
  | nil => rfl
  | cons p ps ih =>
    have hp : p.filter (fun c => c ≠ sep) = p := hself p List.mem_cons_self
    have hps := ih (fun q hq => h q (List.mem_cons_of_mem _ hq)) fun q hq => hself q (List.mem_cons_of_mem _ hq)
    by_cases hnil : ps = []
    · subst hnil
      simpa [join] using hp
    · rw [join_cons _ _ hnil, List.filter_append, List.filter_append, hp, hps]
      simp

end Text

namespace Uuid

variable {u v : Uuid}

/-! ## The number of the digits -/

/-- One more digit at the end multiplies by the base. -/
theorem hexNumber?_append_digit (t : Text) {d : Nat} (h : d < 16) :
    hexNumber? (t ++ [CodePoint.ofHexDigit d]) = (hexNumber? t).map fun n => 16 * n + d := by
  simp only [hexNumber?, List.foldl_append, List.foldl_cons, List.foldl_nil, Text.hexValue?_ofHexDigit h]
  cases t.foldl (fun n c => n.bind fun n => c.hexValue?.map fun d => 16 * n + d) (some 0) <;> rfl

/-- Digits that were dropped are missing from the number. -/
theorem hexNumber?_textHex (width n : Nat) : hexNumber? (Text.hex width n) = some (n % 16 ^ width) := by
  induction width generalizing n with
  | zero => simp [Text.hex, hexNumber?, Nat.mod_one]
  | succ width ih =>
    rw [Text.hex, hexNumber?_append_digit _ (Nat.mod_lt _ (by decide)), ih, Option.map_some, Nat.pow_succ', Nat.mod_mul,
      Nat.add_comm]

/-- The 32 digits have room for every identifier. -/
theorem hexNumber?_hex (u : Uuid) : hexNumber? u.hex = some u.val := by
  have hlt : u.val < 16 ^ 32 := u.lt
  rw [hex, hexNumber?_textHex, Nat.mod_eq_of_lt hlt]

theorem ofNat_val (u : Uuid) : ofNat u.val = u := by
  obtain ⟨n, h⟩ := u
  simp [ofNat, Nat.mod_eq_of_lt h]

/-- Identifiers with the same digits are the same. -/
theorem hex_injective (h : u.hex = v.hex) : u = v := by
  have hval : some u.val = some v.val := by rw [← hexNumber?_hex, ← hexNumber?_hex, h]
  rw [← ofNat_val u, ← ofNat_val v, Option.some.inj hval]

theorem length_hex (u : Uuid) : u.hex.length = 32 := Text.length_hex 32 u.val

theorem dash_not_mem_hex (u : Uuid) : CodePoint.ofChar '-' ∉ u.hex := Text.not_mem_hex (by decide)

/-! ## The groups of the dashed form -/

/-- The digits in their five groups. -/
def groups (u : Uuid) : List Text :=
  [u.hex.take 8, (u.hex.drop 8).take 4, (u.hex.drop 12).take 4, (u.hex.drop 16).take 4, u.hex.drop 20]

theorem text_eq_join (u : Uuid) : u.text = Text.join "-" u.groups := by
  simp [text, groups, Text.join]

/-- The groups are the digits, cut at the right places. -/
theorem flatten_groups (u : Uuid) : u.groups.flatten = u.hex := by
  have hgroup : ∀ n k, (u.hex.drop n).take k ++ u.hex.drop (n + k) = u.hex.drop n := fun n k => by
    rw [← List.drop_drop, List.take_append_drop]
  simp only [groups, List.flatten_cons, List.flatten_nil, List.append_nil]
  rw [hgroup 16 4, hgroup 12 4, hgroup 8 4, List.take_append_drop]

theorem map_length_groups (u : Uuid) : u.groups.map List.length = groupLengths := by
  simp [groups, groupLengths, length_hex]

theorem dash_not_mem_of_mem_groups : ∀ g ∈ u.groups, CodePoint.ofChar '-' ∉ g := by
  intro g hg hdash
  refine dash_not_mem_hex u ?_
  rw [← flatten_groups]
  exact List.mem_flatten.mpr ⟨g, hg, hdash⟩

/-- The dashed form has the groups of the reader. -/
theorem isDashed_text (u : Uuid) : isDashed u.text := by
  have hsplit : Text.splitOn '-' u.text = u.groups := by
    rw [text_eq_join]
    exact Text.splitOn_join (by simp [groups]) dash_not_mem_of_mem_groups
  simp [isDashed, hsplit, map_length_groups]

/-- Without its dashes the dashed form is the digits. -/
theorem filter_text (u : Uuid) : u.text.filter (fun (c : CodePoint) => c ≠ '-') = u.hex := by
  rw [text_eq_join, ← flatten_groups]
  exact Text.filter_join dash_not_mem_of_mem_groups

/-! ## Reading -/

/-- A text that begins with a digit is not wrapped. -/
theorem unwrapped?_of_digit {c : CodePoint} {r : Text} (h : c.hexValue?.isSome) : unwrapped? (c :: r) = none := by
  have hbrace : c ≠ CodePoint.ofChar '\x7b' := by
    rintro rfl
    exact absurd h (by decide)
  have hname : Text.after? "urn:uuid:" (c :: r) = none := by
    cases hr : Text.after? "urn:uuid:" (c :: r) with
    | none => rfl
    | some rest =>
      obtain ⟨rfl, -⟩ := List.cons.inj (Text.after?_eq_some_iff.mp hr)
      exact absurd h (by decide)
  simp [unwrapped?, hbrace, hname]

theorem exists_digit_hex (u : Uuid) : ∃ c r, u.hex = c :: r ∧ c.hexValue?.isSome := by
  cases hhex : u.hex with
  | nil =>
    have hlen := length_hex u
    rw [hhex] at hlen
    cases hlen
  | cons c r =>
    obtain ⟨d, hd, rfl⟩ := Text.exists_digit_of_mem_hex (show c ∈ u.hex from hhex ▸ List.mem_cons_self)
    exact ⟨_, r, rfl, by rw [Text.hexValue?_ofHexDigit hd]; rfl⟩

/-- What is not wrapped and has the digits of an identifier is read as this identifier. -/
theorem parse_of_digits {t : Text} (hw : unwrapped? t = none) (hd : digits? true t = some u.hex) : parse t = .ok u := by
  have hparse : parse? t = some u := by
    rw [parse?, hw]
    simp [hd, hexNumber?_hex, ofNat_val]
  rw [parse, hparse]

/-- An identifier is read from its digits. -/
theorem parse_hex (u : Uuid) : parse u.hex = .ok u := by
  obtain ⟨c, r, hhex, hc⟩ := exists_digit_hex u
  refine parse_of_digits (by rw [hhex]; exact unwrapped?_of_digit hc) ?_
  have hdashed : isDashed u.hex = false := by
    simp [isDashed, Text.splitOn_of_not_mem (dash_not_mem_hex u), length_hex, groupLengths]
  simp [digits?, hdashed, length_hex]

/-- An identifier is read from its dashed form. -/
theorem parse_text (u : Uuid) : parse u.text = .ok u := by
  obtain ⟨c, r, hhex, hc⟩ := exists_digit_hex u
  obtain ⟨r', htext⟩ : ∃ r', u.text = c :: r' := ⟨_, by simp [text, hhex]; rfl⟩
  refine parse_of_digits (by rw [htext]; exact unwrapped?_of_digit hc) ?_
  rw [digits?, if_pos (isDashed_text u), filter_text]

end Uuid

end IndexOptions
