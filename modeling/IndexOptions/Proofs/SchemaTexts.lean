import IndexOptions.Proofs.ReaderLimits
import IndexOptions.Schema.Build

/-!
# Texts of schemas

A text that is no schema is answered with a schema error, unless the reader of documents meets one of its limits
(`Document.MeetsLimit`): it comes to a container inside of too many others, or to an integer with too many digits. The
builder does not turn these into schema errors.

- `decode_eq_error_iff`: what else than a schema error comes from reading a text;
- `settled_ofObject`: once the text is read, every failure is a schema error;
- `settled_build_iff`: both stages together, with what a text at a limit has to hold;
- `meetsLimit_brackets`, `meetsLimit_ones`: texts that meet the limits.
-/

namespace IndexOptions.Schema

open Document (Stop Container ValueAt Overlong MeetsLimit maxDigits)

variable {depth : Nat} {t : Text} {failure : Failure}

/-- An outcome is a value or a schema error. -/
def Settled {α : Type} (x : Except Failure α) : Prop := ∀ failure, x = .error failure → ∃ error, failure = .schema error

/-! ## Reading a text -/

/-- A malformed text and one that holds no object are schema errors; the limits of the reader are handed on. -/
theorem decode_eq_error_iff (hother : ∀ error, failure ≠ .schema error) :
    decode depth t = .error failure ↔
      (∃ container, Document.read depth t = .error (.tooDeep container) ∧ failure = .tooDeep container) ∨
        ∃ n, Document.read depth t = .error (.tooManyDigits n) ∧ failure = .tooManyDigits n := by
  have hschema : ∀ error, (.error (.schema error) : Except Failure (Entries Document)) ≠ .error failure :=
    fun error h => hother error (Except.error.inj h).symm
  unfold decode
  cases Document.read depth t with
  | ok v => cases v <;> simp [hschema]
  | error e =>
    cases e with
    | malformed place => simp [hschema]
    | tooDeep container => simp [eq_comm]
    | tooManyDigits n => simp [eq_comm]

/-! ## Reading an object -/

/-- Every problem of a document is told by a schema error. -/
theorem settled_ofObject (members : Entries Document) : Settled (ofObject members) := by
  intro failure h
  unfold ofObject at h
  cases hmembers : ofMembers members with
  | ok s =>
    rw [hmembers] at h
    cases h
  | error ps =>
    rw [hmembers] at h
    cases h
    exact ⟨_, rfl⟩

/-! ## Building -/

/-- What else than a schema error leaves the builder comes from reading the text. -/
theorem build_eq_error_iff (hother : ∀ error, failure ≠ .schema error) :
    build depth t = .error failure ↔ decode depth t = .error failure := by
  unfold build
  cases hdecode : decode depth t with
  | error e => simp [bind, Except.bind]
  | ok members =>
    show ofObject members = .error failure ↔ _
    constructor
    · intro h
      obtain ⟨error, rfl⟩ := settled_ofObject members failure h
      exact absurd rfl (hother error)
    · intro h
      cases h

theorem build_eq_tooDeep_iff {container : Container} :
    build depth t = .error (.tooDeep container) ↔ MeetsLimit depth t (.tooDeep container) := by
  rw [build_eq_error_iff (by simp), decode_eq_error_iff (by simp), ← Document.read_eq_tooDeep_iff]
  simp

theorem build_eq_tooManyDigits_iff {n : Nat} :
    build depth t = .error (.tooManyDigits n) ↔ MeetsLimit depth t (.tooManyDigits n) := by
  rw [build_eq_error_iff (by simp), decode_eq_error_iff (by simp), ← Document.read_eq_tooManyDigits_iff]
  simp

/-- A failure is a schema error or one of the limits. -/
theorem build_eq_error_cases (h : build depth t = .error failure) :
    (∃ error, failure = .schema error) ∨
      (∃ container, failure = .tooDeep container ∧ MeetsLimit depth t (.tooDeep container)) ∨
      ∃ n, failure = .tooManyDigits n ∧ MeetsLimit depth t (.tooManyDigits n) := by
  by_cases hschema : ∃ error, failure = .schema error
  · exact Or.inl hschema
  · have hother : ∀ error, failure ≠ .schema error := fun error hf => hschema ⟨error, hf⟩
    have hdecode : decode depth t = .error failure := (build_eq_error_iff hother).mp h
    rcases (decode_eq_error_iff hother).mp hdecode with ⟨container, -, rfl⟩ | ⟨n, -, rfl⟩
    · exact Or.inr (Or.inl ⟨container, rfl, build_eq_tooDeep_iff.mp h⟩)
    · exact Or.inr (Or.inr ⟨n, rfl, build_eq_tooManyDigits_iff.mp h⟩)

theorem settled_build_iff_not_meetsLimit : Settled (build depth t) ↔ ∀ e : Stop, e.IsLimit → ¬MeetsLimit depth t e := by
  constructor
  · intro h e he hmeets
    cases e with
    | fault fault rest => exact he
    | tooDeep container =>
      obtain ⟨error, herror⟩ := h _ (build_eq_tooDeep_iff.mpr hmeets)
      cases herror
    | tooManyDigits n =>
      obtain ⟨error, herror⟩ := h _ (build_eq_tooManyDigits_iff.mpr hmeets)
      cases herror
  · intro h failure hfailure
    rcases build_eq_error_cases hfailure with hschema | ⟨container, -, hmeets⟩ | ⟨n, -, hmeets⟩
    · exact hschema
    · exact absurd hmeets (h (.tooDeep container) trivial)
    · exact absurd hmeets (h (.tooManyDigits n) trivial)

/-- **A text is a schema or is told by a schema error, unless the reader meets a limit.**

- The builder settles exactly the texts that meet no limit;
- each limit that a text meets leaves the builder as it is, and nothing else but schema errors does;
- the limits are those of reading the text: an object that was read is settled always;
- a text with no more openings than containers may be open at a time, and no longer runs of digits than are read, is
  settled.

This is so however many containers may be open at a time. -/
theorem settled_build_iff (depth : Nat) (t : Text) :
    (Settled (build depth t) ↔ ∀ e : Stop, e.IsLimit → ¬MeetsLimit depth t e) ∧
    (∀ container, build depth t = .error (.tooDeep container) ↔ MeetsLimit depth t (.tooDeep container)) ∧
    (∀ n, build depth t = .error (.tooManyDigits n) ↔ MeetsLimit depth t (.tooManyDigits n)) ∧
    (∀ failure, build depth t = .error failure →
      (∃ error, failure = .schema error) ∨ (∃ container, failure = .tooDeep container) ∨
        ∃ n, failure = .tooManyDigits n) ∧
    (∀ members, Settled (ofObject members)) ∧
    (t.countP Document.isOpening ≤ depth →
      (∀ before digits after, t = before ++ digits ++ after → digits.all CodePoint.isDigit →
        digits.length ≤ maxDigits) →
      Settled (build depth t)) := by
  refine ⟨settled_build_iff_not_meetsLimit, fun container => build_eq_tooDeep_iff,
    fun n => build_eq_tooManyDigits_iff, ?_, settled_ofObject, ?_⟩
  · intro failure h
    rcases build_eq_error_cases h with hschema | ⟨container, hdeep, -⟩ | ⟨n, hdigits, -⟩
    · exact Or.inl hschema
    · exact Or.inr (Or.inl ⟨container, hdeep⟩)
    · exact Or.inr (Or.inr ⟨n, hdigits⟩)
  · intro hopenings hruns
    rw [settled_build_iff_not_meetsLimit]
    intro e he hmeets
    cases e with
    | fault fault rest => exact he
    | tooDeep container =>
      have hmany : depth < t.countP Document.isOpening := Document.depth_lt_of_meetsLimit hmeets
      omega
    | tooManyDigits n =>
      obtain ⟨hmany, before, digits, after, ht, hlen, hall⟩ := Document.exists_digits_of_meetsLimit hmeets
      have hfew : digits.length ≤ maxDigits := hruns before digits after ht hall
      omega

/-! ## Texts at a limit -/

/-- Reading arrays inside of arrays comes to the one that has nothing left to open. -/
theorem valueAt_brackets (d : Nat) (r : Text) :
    ValueAt d (List.replicate d (CodePoint.ofChar '[') ++ CodePoint.ofChar '[' :: r) 0 (CodePoint.ofChar '[' :: r) := by
  induction d with
  | zero => exact .here 0 _
  | succ d ih =>
    obtain ⟨s, hs⟩ : ∃ s, List.replicate d (CodePoint.ofChar '[') ++ CodePoint.ofChar '[' :: r =
        CodePoint.ofChar '[' :: s := by
      cases d with
      | zero => exact ⟨r, rfl⟩
      | succ d => exact ⟨_, rfl⟩
    rw [List.replicate_succ, List.cons_append]
    rw [hs] at ih ⊢
    exact .inArray (List.dropWhile_cons_of_neg (by decide)) (by decide) (.first _) ih

/-- A text that begins with neither a separator nor a byte order mark meets the limits of its value. -/
theorem meetsLimit_of_valueAt {c : CodePoint} {s u : Text} {d : Nat} {e : Stop} (hc : Document.isSeparator c = false)
    (hmark : c ≠ CodePoint.ofNat 0xFEFF) (hplace : ValueAt depth (c :: s) d u) (hmeets : Document.Meets d u e) :
    MeetsLimit depth (c :: s) e := by
  have hskip : Document.skip (c :: s) = c :: s := List.dropWhile_cons_of_neg (by simp [hc])
  refine ⟨fun hhead => hmark (Option.some.inj hhead), d, u, ?_, hmeets⟩
  rw [hskip]
  exact hplace

/-- More arrays inside of each other than may be open at a time, whatever stands behind their openings. -/
theorem meetsLimit_brackets {n : Nat} (h : depth < n) (r : Text) :
    MeetsLimit depth (List.replicate n (CodePoint.ofChar '[') ++ r) (.tooDeep .array) := by
  obtain ⟨k, rfl⟩ := Nat.exists_eq_add_of_lt h
  have hplace : ValueAt depth (List.replicate (depth + k + 1) (CodePoint.ofChar '[') ++ r) 0
      (CodePoint.ofChar '[' :: (List.replicate k (CodePoint.ofChar '[') ++ r)) := by
    rw [Nat.add_assoc, List.replicate_add, List.replicate_succ, List.append_assoc, List.cons_append]
    exact valueAt_brackets depth _
  rw [List.replicate_succ, List.cons_append] at hplace ⊢
  exact meetsLimit_of_valueAt (by decide) (by decide) hplace (.array _)

theorem overlong_ones {n : Nat} (h : maxDigits < n) : Overlong n (List.replicate n (CodePoint.ofChar '1')) := by
  refine ⟨List.replicate n (CodePoint.ofChar '1'), [], Or.inl (List.append_nil _).symm, List.length_replicate, h,
    ?_, ?_, by simp, rfl, rfl⟩
  · refine List.all_eq_true.mpr fun c hc => ?_
    rw [List.eq_of_mem_replicate hc]
    decide
  · intro hhead
    have hone : CodePoint.ofChar '0' = CodePoint.ofChar '1' := List.eq_of_mem_replicate (List.mem_of_mem_head? hhead)
    exact absurd hone (by decide)

/-- An integer on its own with more digits than are read. -/
theorem meetsLimit_ones {n : Nat} (h : maxDigits < n) :
    MeetsLimit depth (List.replicate n (CodePoint.ofChar '1')) (.tooManyDigits n) := by
  have hover : Overlong n (List.replicate n (CodePoint.ofChar '1')) := overlong_ones h
  obtain ⟨k, rfl⟩ := Nat.exists_eq_add_of_lt h
  rw [List.replicate_succ] at hover ⊢
  exact meetsLimit_of_valueAt (by decide) (by decide) (.here _ _) (.digits hover)

/-- An integer on its own, with one digit too many. -/
def oneDigitTooMany : Text := List.replicate (maxDigits + 1) (CodePoint.ofChar '1')

/-- Six thousand arrays inside of each other. -/
def nestedArrays : Text :=
  List.replicate 6000 (CodePoint.ofChar '[') ++ List.replicate 6000 (CodePoint.ofChar ']')

/-- One digit too many, or more arrays inside of each other than may be, is enough for a failure that is no schema
error. -/
theorem not_settled_atLimits :
    (∀ depth, ¬Settled (build depth oneDigitTooMany)) ∧
      ∀ depth, depth < 6000 → ¬Settled (build depth nestedArrays) := by
  simp only [settled_build_iff_not_meetsLimit]
  refine ⟨fun depth h => ?_, fun depth hdepth h => ?_⟩
  · exact h (.tooManyDigits (maxDigits + 1)) trivial (meetsLimit_ones (Nat.lt_succ_self _))
  · exact h (.tooDeep .array) trivial (meetsLimit_brackets hdepth _)

end IndexOptions.Schema
