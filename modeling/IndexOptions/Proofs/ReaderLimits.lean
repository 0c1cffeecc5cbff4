import IndexOptions.Proofs.ReaderProgress
import Mathlib.Data.List.TakeWhile

/-!
# Where the reader meets a limit

Two limits end the reading of a document for another reason than a fault of its text: a container inside of too many
others, and an integer with too many digits. A limit is met at the place of a value, so the places of values are named
first: `ValueAt d t e u` holds if reading `t` with `d` containers left to open comes to a value at `u`, with `e` left.
What stands before it inside of its containers has been read, and so is well formed.

- `plain_eq_error_iff`: outside of containers, an overlong integer (`Overlong`) is the one limit;
- `items_eq_error_iff`, `members_eq_error_iff`: a container meets the limits that its values meet, in order;
- `value_eq_error_iff`: a limit is met exactly at the place of a value that opens a container with none left, or is an
  overlong integer (`Meets`);
- `read_eq_error_iff`: the same for whole texts;
- `depth_lt_of_meetsLimit`, `exists_digits_of_meetsLimit`: what a text at a limit holds.
-/

namespace IndexOptions.Document

variable {α β : Type} {t r s u : Text} {d n depth : Nat} {e : Stop}

theorem bind_eq_error_iff {x : Except Stop α} {f : α → Except Stop β} :
    (x >>= f) = .error e ↔ x = .error e ∨ ∃ a, x = .ok a ∧ f a = .error e := by
  cases x <;> simp [bind, Except.bind]

/-! ## Overlong integers -/

/-- The text begins with an integer of `n` digits, more than are read. It goes on neither with another digit nor with a
fraction or an exponent, which would make a number of another kind. -/
def Overlong (n : Nat) (t : Text) : Prop :=
  ∃ digits rest, (t = digits ++ rest ∨ t = CodePoint.ofChar '-' :: (digits ++ rest)) ∧
    digits.length = n ∧ maxDigits < n ∧ digits.all CodePoint.isDigit ∧ digits.head? ≠ some (CodePoint.ofChar '0') ∧
    (∀ c ∈ rest.head?, ¬c.isDigit) ∧ (fractionPart rest).1 = [] ∧ (exponentPart rest).1 = []

/-- Digits are taken up to the first code point that is none. -/
theorem span_digits {digits rest : Text} (hall : digits.all CodePoint.isDigit) (hrest : ∀ c ∈ rest.head?, ¬c.isDigit) :
    (digits ++ rest).takeWhile CodePoint.isDigit = digits ∧ (digits ++ rest).dropWhile CodePoint.isDigit = rest := by
  have hdigits : ∀ c ∈ digits, c.isDigit := List.all_eq_true.mp hall
  have htake : rest.takeWhile CodePoint.isDigit = [] := by
    cases rest with
    | nil => rfl
    | cons c rest => exact List.takeWhile_cons_of_neg (hrest c rfl)
  have hdrop : rest.dropWhile CodePoint.isDigit = rest := by
    cases rest with
    | nil => rfl
    | cons c rest => exact List.dropWhile_cons_of_neg (hrest c rfl)
  exact ⟨by rw [List.takeWhile_append_of_pos hdigits, htake, List.append_nil],
    by rw [List.dropWhile_append_of_pos hdigits, hdrop]⟩

/-- A whole part of several digits is a run of digits that does not begin with a zero. -/
theorem wholePart?_eq_some_iff {whole : Text} (h : 1 < whole.length) :
    wholePart? t = some (whole, r) ↔
      t = whole ++ r ∧ whole.all CodePoint.isDigit ∧ whole.head? ≠ some (CodePoint.ofChar '0') ∧
        ∀ c ∈ r.head?, ¬c.isDigit := by
  constructor
  · intro hw
    unfold wholePart? at hw
    split at hw
    · cases hw
    · next c rest =>
      split_ifs at hw with hzero hdigit
      · cases hw
        exact absurd h (Nat.lt_irrefl 1)
      · cases hw
        refine ⟨?_, ?_, ?_, ?_⟩
        · rw [List.cons_append, List.takeWhile_append_dropWhile]
        · simp [hdigit, List.all_takeWhile]
        · simpa using hzero
        · intro a ha
          have hnot := List.head?_dropWhile_not CodePoint.isDigit rest
          rw [Option.mem_def.mp ha] at hnot
          simpa using hnot
  · rintro ⟨rfl, hall, hhead, hrest⟩
    cases whole with
    | nil => exact absurd h (by simp)
    | cons c w =>
      simp only [List.all_cons, Bool.and_eq_true] at hall
      have hzero : c ≠ CodePoint.ofChar '0' := by simpa using hhead
      obtain ⟨htake, hdrop⟩ := span_digits hall.2 hrest
      rw [List.cons_append, wholePart?, if_neg hzero, if_pos hall.1, htake, hdrop]

theorem fractionPart_of_fst (h : (fractionPart t).1 = []) : fractionPart t = ([], t) := by
  unfold fractionPart at h ⊢
  split at h
  · rfl
  · next c r =>
    dsimp only at h ⊢
    split_ifs with hc
    · rw [if_pos hc] at h
      cases h
    · rfl

/-- The number of an integer meets the limit on its digits; all other numbers have a value. -/
theorem number_eq_error_iff (negative : Bool) {whole fraction exponent : Text} (he : e.IsLimit) :
    number negative whole fraction exponent = .error e ↔
      fraction = [] ∧ exponent = [] ∧ maxDigits < whole.length ∧ e = .tooManyDigits whole.length := by
  unfold number
  split_ifs with hparts hmany
  · simp only [Bool.and_eq_true, List.isEmpty_iff] at hparts
    simp [hparts, hmany, eq_comm]
  · simp [hmany]
  · have hfault : (.error (.fault .noValue whole) : Except Stop Document) ≠ .error e :=
      fun h => onlyFaults_fault _ _ e h he
    have hother : ¬(fraction = [] ∧ exponent = []) := by simpa using hparts
    rw [← and_assoc, iff_false_right (fun h => hother h.1)]
    split
    · simp
    · exact hfault

/-- Of all numerals, an overlong integer is the one that meets a limit. -/
theorem numeral_eq_error_iff {negative : Bool} {start : Text} (he : e.IsLimit) :
    numeral negative start t = .error e ↔
      ∃ whole rest, wholePart? t = some (whole, rest) ∧ maxDigits < whole.length ∧ (fractionPart rest).1 = [] ∧
        (exponentPart rest).1 = [] ∧ e = .tooManyDigits whole.length := by
  cases hwhole : wholePart? t with
  | none =>
    have hfault : (.error (.fault .noValue start) : Except Stop (Document × Text)) ≠ .error e :=
      fun h => onlyFaults_fault _ _ e h he
    simp [numeral, hwhole, hfault]
  | some p =>
    obtain ⟨whole, rest⟩ := p
    have hsplit : numeral negative start t = .error e ↔
        (fractionPart rest).1 = [] ∧ (exponentPart (fractionPart rest).2).1 = [] ∧ maxDigits < whole.length ∧
          e = .tooManyDigits whole.length := by
      rw [← number_eq_error_iff negative he]
      unfold numeral
      rw [hwhole]
      simp [bind_eq_error_iff, pure, Except.pure]
    constructor
    · intro h
      obtain ⟨hfraction, hexponent, hmany, htold⟩ := hsplit.mp h
      rw [fractionPart_of_fst hfraction] at hexponent
      exact ⟨whole, rest, rfl, hmany, hfraction, hexponent, htold⟩
    · rintro ⟨_, _, ⟨⟩, hmany, hfraction, hexponent, htold⟩
      refine hsplit.mpr ⟨hfraction, ?_, hmany, htold⟩
      rw [fractionPart_of_fst hfraction]
      exact hexponent

/-- No word begins with a digit, or with a digit behind a minus sign. -/
theorem words_start : words.all fun (word, _) =>
    match word with
    | a :: b :: _ => !a.isDigit && !(a = CodePoint.ofChar '-' && b.isDigit)
    | _ => false := by
  decide

theorem words_of_overlong (h : Overlong n t) :
    (words.findSome? fun (word, value) => (Text.after? word t).map fun r => (value, r)) = none := by
  obtain ⟨digits, rest, ht, rfl, hmany, hall, -⟩ := h
  obtain ⟨c, digits, rfl⟩ := List.exists_cons_of_length_pos (Nat.zero_lt_of_lt hmany)
  have hc : c.isDigit := by
    simp only [List.all_cons, Bool.and_eq_true] at hall
    exact hall.1
  refine List.findSome?_eq_none_iff.mpr ?_
  rintro ⟨word, value⟩ hword
  have hstart := List.all_eq_true.mp words_start _ hword
  refine Option.map_eq_none_iff.mpr (Option.eq_none_iff_forall_ne_some.mpr fun r hr => ?_)
  rw [Text.after?_eq_some_iff] at hr
  match word, hstart with
  | a :: b :: word, hstart =>
    simp only [Bool.and_eq_true, Bool.not_eq_true', Bool.and_eq_false_iff, decide_eq_false_iff_not] at hstart
    obtain ⟨ha, hb⟩ := hstart
    rcases ht with rfl | rfl
    · obtain ⟨rfl, -⟩ := List.cons.inj hr
      rw [hc] at ha
      cases ha
    · obtain ⟨rfl, hrest⟩ := List.cons.inj hr
      obtain ⟨rfl, -⟩ := List.cons.inj hrest
      rw [hc] at hb
      simp at hb

/-- Outside of containers an overlong integer is the one thing that meets a limit. -/
theorem plain_eq_error_iff (he : e.IsLimit) : plain t = .error e ↔ ∃ n, Overlong n t ∧ e = .tooManyDigits n := by
  constructor
  · intro h
    unfold plain at h
    split at h
    · cases h
    · split at h
      · exact absurd he (onlyFaults_fault _ _ e h)
      · next c r _ =>
        split_ifs at h with hminus
        · obtain ⟨whole, rest, hwhole, hmany, hfraction, hexponent, rfl⟩ := (numeral_eq_error_iff he).mp h
          obtain ⟨rfl, hall, hhead, hrest⟩ := (wholePart?_eq_some_iff (lt_trans (by decide) hmany)).mp hwhole
          exact ⟨_, ⟨whole, rest, Or.inr (by rw [hminus]), rfl, hmany, hall, hhead, hrest, hfraction, hexponent⟩, rfl⟩
        · obtain ⟨whole, rest, hwhole, hmany, hfraction, hexponent, rfl⟩ := (numeral_eq_error_iff he).mp h
          obtain ⟨ht, hall, hhead, hrest⟩ := (wholePart?_eq_some_iff (lt_trans (by decide) hmany)).mp hwhole
          exact ⟨_, ⟨whole, rest, Or.inl ht, rfl, hmany, hall, hhead, hrest, hfraction, hexponent⟩, rfl⟩
  · rintro ⟨n, hover, rfl⟩
    unfold plain
    rw [words_of_overlong hover]
    obtain ⟨digits, rest, ht, rfl, hmany, hall, hhead, hrest, hfraction, hexponent⟩ := hover
    have hwhole : wholePart? (digits ++ rest) = some (digits, rest) :=
      (wholePart?_eq_some_iff (lt_trans (by decide) hmany)).mpr ⟨rfl, hall, hhead, hrest⟩
    have hnumeral : ∀ negative start, numeral negative start (digits ++ rest) = .error (.tooManyDigits digits.length) :=
      fun negative start => (numeral_eq_error_iff he).mpr ⟨digits, rest, hwhole, hmany, hfraction, hexponent, rfl⟩
    rcases ht with rfl | rfl
    · obtain ⟨c, digits, rfl⟩ := List.exists_cons_of_length_pos (Nat.zero_lt_of_lt hmany)
      have hc : c ≠ CodePoint.ofChar '-' := by
        rintro rfl
        simp +decide at hall
      dsimp only [List.cons_append]
      rw [if_neg hc]
      exact hnumeral _ _
    · dsimp only
      rw [if_pos rfl]
      exact hnumeral _ _

/-! ## Places -/

/-- Reading the items of an array from `t` on comes to an item at `u`. -/
inductive ItemAt (item : Reader Document) : Text → Text → Prop
  | first (t : Text) : ItemAt item t t
  | next {t r s u : Text} {v : Document} : item t = .ok (v, r) → skip r = CodePoint.ofChar ',' :: s →
      ItemAt item (skip s) u → ItemAt item t u

/-- Reading the members of an object from `t` on comes to the value of a member at `u`. -/
inductive MemberAt (item : Reader Document) : Text → Text → Prop
  | first {t u name : Text} : memberName t = .ok (name, u) → MemberAt item t u
  | next {t q r s u name : Text} {v : Document} : memberName t = .ok (name, q) → item q = .ok (v, r) →
      skip r = CodePoint.ofChar ',' :: s → MemberAt item (skip s) u → MemberAt item t u

/-- Reading `t` with `d` containers left to open comes to a value at `u`, with `e` left. -/
inductive ValueAt : Nat → Text → Nat → Text → Prop
  | here (d : Nat) (t : Text) : ValueAt d t d t
  | inArray {d e : Nat} {c : CodePoint} {r s u v : Text} : skip r = c :: s → c ≠ ']' →
      ItemAt (value d) (c :: s) v → ValueAt d v e u → ValueAt (d + 1) (CodePoint.ofChar '[' :: r) e u
  | inObject {d e : Nat} {c : CodePoint} {r s u v : Text} : skip r = c :: s → c ≠ '\x7d' →
      MemberAt (value d) (c :: s) v → ValueAt d v e u → ValueAt (d + 1) (CodePoint.ofChar '\x7b' :: r) e u

/-- A value at `t` meets a limit right there, with `d` containers left to open. -/
inductive Meets : Nat → Text → Stop → Prop
  | array (r : Text) : Meets 0 (CodePoint.ofChar '[' :: r) (.tooDeep .array)
  | object (r : Text) : Meets 0 (CodePoint.ofChar '\x7b' :: r) (.tooDeep .object)
  | digits {d n : Nat} {t : Text} : Overlong n t → Meets d t (.tooManyDigits n)

/-! ## Containers -/

section Containers

variable {item : Reader Document} {P : Text → Prop}

/-- An item is the first one, or one behind a comma. -/
theorem exists_itemAt_iff :
    (∃ u, ItemAt item t u ∧ P u) ↔
      P t ∨ ∃ v r s, item t = .ok (v, r) ∧ skip r = CodePoint.ofChar ',' :: s ∧ ∃ u, ItemAt item (skip s) u ∧ P u := by
  constructor
  · rintro ⟨u, hu, hP⟩
    cases hu with
    | first => exact Or.inl hP
    | next hok hskip hrest => exact Or.inr ⟨_, _, _, hok, hskip, u, hrest, hP⟩
  · rintro (hP | ⟨v, r, s, hok, hskip, u, hu, hP⟩)
    · exact ⟨t, .first t, hP⟩
    · exact ⟨u, .next hok hskip hu, hP⟩

theorem exists_memberAt_iff :
    (∃ u, MemberAt item t u ∧ P u) ↔
      ∃ name q, memberName t = .ok (name, q) ∧ (P q ∨ ∃ v r s, item q = .ok (v, r) ∧
        skip r = CodePoint.ofChar ',' :: s ∧ ∃ u, MemberAt item (skip s) u ∧ P u) := by
  constructor
  · rintro ⟨u, hu, hP⟩
    cases hu with
    | first hname => exact ⟨_, _, hname, Or.inl hP⟩
    | next hname hok hskip hrest => exact ⟨_, _, hname, Or.inr ⟨_, _, _, hok, hskip, u, hrest, hP⟩⟩
  · rintro ⟨name, q, hname, hP | ⟨v, r, s, hok, hskip, u, hu, hP⟩⟩
    · exact ⟨q, .first hname, hP⟩
    · exact ⟨u, .next hname hok hskip hu, hP⟩

/-- Behind an item only a comma leads on to a limit: a closing bracket ends the container, and the rest is a fault. -/
theorem behind_eq_error_iff {close : CodePoint} (hclose : close ≠ CodePoint.ofChar ',') (he : e.IsLimit)
    {done more : Text → Except Stop β} (hdone : ∀ s, done s ≠ .error e) :
    (match skip r with
      | [] => .error (.fault .noComma [])
      | c :: s =>
        if c = close then done s else if c = CodePoint.ofChar ',' then more s
        else .error (.fault .noComma (c :: s)) : Except Stop β) = .error e ↔
      ∃ s, skip r = CodePoint.ofChar ',' :: s ∧ more s = .error e := by
  have hfault : ∀ u, (.error (.fault .noComma u) : Except Stop β) ≠ .error e := fun u h => onlyFaults_fault _ u e h he
  cases skip r with
  | nil => simp [hfault]
  | cons c s =>
    dsimp only
    split_ifs with hc hcomma
    · subst hc
      simp [hdone, hclose]
    · subst hcomma
      simp
    · simp [hfault, hcomma]

/-- A round fails at its item, or goes on behind a comma. -/
theorem items_succ_eq_error_iff (he : e.IsLimit) {fuel : Nat} :
    items item (fuel + 1) t = .error e ↔
      item t = .error e ∨ ∃ v r s, item t = .ok (v, r) ∧ skip r = CodePoint.ofChar ',' :: s ∧
        items item fuel (skip s) = .error e := by
  rw [items, bind_eq_error_iff]
  refine or_congr_right ?_
  simp only [Prod.exists]
  refine exists_congr fun v => exists_congr fun r => ?_
  refine (and_congr_right fun _ => behind_eq_error_iff (show CodePoint.ofChar ']' ≠ CodePoint.ofChar ',' by decide) he
    fun s h => by cases h).trans ?_
  simp [bind_eq_error_iff, pure, Except.pure]

/-- A round fails at the value of its member, or goes on behind a comma; a name is no reason for a limit. -/
theorem members_succ_eq_error_iff (he : e.IsLimit) {fuel : Nat} :
    members item (fuel + 1) t = .error e ↔
      ∃ name q, memberName t = .ok (name, q) ∧ (item q = .error e ∨ ∃ v r s, item q = .ok (v, r) ∧
        skip r = CodePoint.ofChar ',' :: s ∧ members item fuel (skip s) = .error e) := by
  have hname : memberName t ≠ .error e := fun h => onlyFaults_memberName t e h he
  rw [members, bind_eq_error_iff, or_iff_right hname]
  simp only [Prod.exists]
  refine exists_congr fun name => exists_congr fun q => and_congr_right fun _ => ?_
  rw [bind_eq_error_iff]
  refine or_congr_right ?_
  simp only [Prod.exists]
  refine exists_congr fun v => exists_congr fun r => ?_
  refine (and_congr_right fun _ =>
    behind_eq_error_iff (show CodePoint.ofChar '\x7d' ≠ CodePoint.ofChar ',' by decide) he
    fun s h => by cases h).trans ?_
  simp [bind_eq_error_iff, pure, Except.pure]

variable (hitem : ∀ t, Consumed t (item t)) (he : e.IsLimit)

include hitem he

/-- Reading items meets the limits that one of the items meets. Each round takes an item and a comma off the text, so
the fuel does not run out. -/
theorem items_eq_error_iff {fuel : Nat} (hfuel : fuel ≠ 0) (hlen : t.length ≤ fuel) :
    items item fuel t = .error e ↔ ∃ u, ItemAt item t u ∧ item u = .error e := by
  induction fuel generalizing t with
  | zero => exact absurd rfl hfuel
  | succ fuel ih =>
    rw [items_succ_eq_error_iff he, exists_itemAt_iff]
    refine or_congr_right (exists_congr fun v => exists_congr fun r => exists_congr fun s => ?_)
    refine and_congr_right fun hv => and_congr_right fun hskip => ?_
    have hr : r.length < t.length := (hitem t v r hv).length_lt
    have hs : s.length < r.length := (shorter_of_skip hskip).length_lt
    have hrest : (skip s).length ≤ s.length := (skip_suffix s).length_le
    exact ih (by omega) (by omega)

theorem members_eq_error_iff {fuel : Nat} (hfuel : fuel ≠ 0) (hlen : t.length ≤ fuel) :
    members item fuel t = .error e ↔ ∃ u, MemberAt item t u ∧ item u = .error e := by
  induction fuel generalizing t with
  | zero => exact absurd rfl hfuel
  | succ fuel ih =>
    rw [members_succ_eq_error_iff he, exists_memberAt_iff]
    refine exists_congr fun name => exists_congr fun q => and_congr_right fun hname => or_congr_right ?_
    refine exists_congr fun v => exists_congr fun r => exists_congr fun s => ?_
    refine and_congr_right fun hv => and_congr_right fun hskip => ?_
    have hq : q.length < t.length := (consumed_memberName t name q hname).length_lt
    have hr : r.length < q.length := (hitem q v r hv).length_lt
    have hs : s.length < r.length := (shorter_of_skip hskip).length_lt
    have hrest : (skip s).length ≤ s.length := (skip_suffix s).length_le
    exact ih (by omega) (by omega)

theorem arrayRest_eq_error_iff :
    arrayRest item t = .error e ↔
      ∃ c s, skip t = c :: s ∧ c ≠ CodePoint.ofChar ']' ∧ ∃ u, ItemAt item (c :: s) u ∧ item u = .error e := by
  have hfault : ∀ u, (.error (.fault .noValue u) : Except Stop (Document × Text)) ≠ .error e :=
    fun u h => onlyFaults_fault _ u e h he
  unfold arrayRest
  cases skip t with
  | nil => simp [hfault]
  | cons c s =>
    dsimp only
    split_ifs with hc
    · simp [hc]
    · have hitems : items item (c :: s).length (c :: s) = .error e ↔ ∃ u, ItemAt item (c :: s) u ∧ item u = .error e :=
        items_eq_error_iff hitem he (by simp) le_rfl
      simpa [bind_eq_error_iff, pure, Except.pure, hc] using hitems

theorem objectRest_eq_error_iff :
    objectRest item t = .error e ↔
      ∃ c s, skip t = c :: s ∧ c ≠ CodePoint.ofChar '\x7d' ∧ ∃ u, MemberAt item (c :: s) u ∧ item u = .error e := by
  have hfault : ∀ u, (.error (.fault .noName u) : Except Stop (Document × Text)) ≠ .error e :=
    fun u h => onlyFaults_fault _ u e h he
  unfold objectRest
  cases skip t with
  | nil => simp [hfault]
  | cons c s =>
    dsimp only
    split_ifs with hc
    · simp [hc]
    · have hmembers : members item (c :: s).length (c :: s) = .error e ↔
          ∃ u, MemberAt item (c :: s) u ∧ item u = .error e :=
        members_eq_error_iff hitem he (by simp) le_rfl
      simpa [bind_eq_error_iff, pure, Except.pure, hc] using hmembers

end Containers

/-! ## Values -/

theorem exists_valueAt_iff {P : Nat → Text → Prop} :
    (∃ d' u, ValueAt d t d' u ∧ P d' u) ↔ P d t ∨
      (∃ k r c s v, d = k + 1 ∧ t = CodePoint.ofChar '[' :: r ∧ skip r = c :: s ∧ c ≠ CodePoint.ofChar ']' ∧
        ItemAt (value k) (c :: s) v ∧ ∃ d' u, ValueAt k v d' u ∧ P d' u) ∨
      ∃ k r c s v, d = k + 1 ∧ t = CodePoint.ofChar '\x7b' :: r ∧ skip r = c :: s ∧ c ≠ CodePoint.ofChar '\x7d' ∧
        MemberAt (value k) (c :: s) v ∧ ∃ d' u, ValueAt k v d' u ∧ P d' u := by
  constructor
  · rintro ⟨d', u, h, hP⟩
    cases h with
    | here => exact Or.inl hP
    | inArray hskip hc hitem hin =>
      exact Or.inr (Or.inl ⟨_, _, _, _, _, rfl, rfl, hskip, hc, hitem, d', u, hin, hP⟩)
    | inObject hskip hc hmember hin =>
      exact Or.inr (Or.inr ⟨_, _, _, _, _, rfl, rfl, hskip, hc, hmember, d', u, hin, hP⟩)
  · rintro (hP | ⟨k, r, c, s, v, rfl, rfl, hskip, hc, hitem, d', u, hin, hP⟩ |
      ⟨k, r, c, s, v, rfl, rfl, hskip, hc, hmember, d', u, hin, hP⟩)
    · exact ⟨d, t, .here d t, hP⟩
    · exact ⟨d', u, .inArray hskip hc hitem hin, hP⟩
    · exact ⟨d', u, .inObject hskip hc hmember hin, hP⟩

theorem meets_iff :
    Meets d t e ↔ (d = 0 ∧ (∃ r, t = CodePoint.ofChar '[' :: r) ∧ e = .tooDeep .array) ∨
      (d = 0 ∧ (∃ r, t = CodePoint.ofChar '\x7b' :: r) ∧ e = .tooDeep .object) ∨
      ∃ n, Overlong n t ∧ e = .tooManyDigits n := by
  constructor
  · intro h
    cases h with
    | array r => exact Or.inl ⟨rfl, ⟨r, rfl⟩, rfl⟩
    | object r => exact Or.inr (Or.inl ⟨rfl, ⟨r, rfl⟩, rfl⟩)
    | digits hover => exact Or.inr (Or.inr ⟨_, hover, rfl⟩)
  · rintro (⟨rfl, ⟨r, rfl⟩, rfl⟩ | ⟨rfl, ⟨r, rfl⟩, rfl⟩ | ⟨n, hover, rfl⟩)
    · exact .array r
    · exact .object r
    · exact .digits hover

theorem not_overlong_nil : ¬Overlong n [] := by
  rintro ⟨digits, rest, h | h, hlen, hmany, -⟩
  · obtain ⟨rfl, rfl⟩ := List.append_eq_nil_iff.mp h.symm
    rw [← hlen] at hmany
    exact absurd hmany (Nat.not_lt_zero _)
  · cases h

/-- An overlong integer begins with a digit or a minus sign. -/
theorem not_overlong_cons {c : CodePoint} (hd : c.isDigit = false) (hm : c ≠ CodePoint.ofChar '-') :
    ¬Overlong n (c :: r) := by
  rintro ⟨digits, rest, h | h, hlen, hmany, hall, -⟩
  · cases digits with
    | nil =>
      rw [← hlen] at hmany
      exact absurd hmany (Nat.not_lt_zero _)
    | cons a digits =>
      obtain ⟨rfl, -⟩ := List.cons.inj h
      simp [hd] at hall
  · exact hm (List.cons.inj h).1

/-- A value stops at a limit right there, or at a limit of a value that it contains. -/
theorem value_eq_error_step (he : e.IsLimit) :
    value d t = .error e ↔ Meets d t e ∨
      (∃ k r c s u, d = k + 1 ∧ t = CodePoint.ofChar '[' :: r ∧ skip r = c :: s ∧ c ≠ CodePoint.ofChar ']' ∧
        ItemAt (value k) (c :: s) u ∧ value k u = .error e) ∨
      ∃ k r c s u, d = k + 1 ∧ t = CodePoint.ofChar '\x7b' :: r ∧ skip r = c :: s ∧ c ≠ CodePoint.ofChar '\x7d' ∧
        MemberAt (value k) (c :: s) u ∧ value k u = .error e := by
  rw [meets_iff]
  fun_cases value d t with
  | case1 =>
    have hfault : (.error (.fault .noValue []) : Except Stop (Document × Text)) ≠ .error e :=
      fun h => onlyFaults_fault _ _ e h he
    simp [hfault, not_overlong_nil]
  | case2 _ r =>
    have hover : ∀ n, ¬Overlong n (CodePoint.ofChar '"' :: r) := fun n => not_overlong_cons (by decide) (by decide)
    refine iff_of_false ?_ (by simp +decide [hover])
    exact fun h => onlyFaults_bind (onlyFaults_quotedText _ r) (fun _ => onlyFaults_ok _) e h he
  | case3 r =>
    have hover : ∀ n, ¬Overlong n (CodePoint.ofChar '[' :: r) := fun n => not_overlong_cons (by decide) (by decide)
    simp +decide [hover, eq_comm]
  | case4 r depth =>
    have hover : ∀ n, ¬Overlong n (CodePoint.ofChar '[' :: r) := fun n => not_overlong_cons (by decide) (by decide)
    rw [arrayRest_eq_error_iff (consumed_value depth) he]
    simp +decide [hover]
  | case5 r =>
    have hover : ∀ n, ¬Overlong n (CodePoint.ofChar '\x7b' :: r) := fun n => not_overlong_cons (by decide) (by decide)
    simp +decide [hover, eq_comm]
  | case6 r depth =>
    have hover : ∀ n, ¬Overlong n (CodePoint.ofChar '\x7b' :: r) := fun n => not_overlong_cons (by decide) (by decide)
    rw [objectRest_eq_error_iff (consumed_value depth) he]
    simp +decide [hover]
  | case7 _ c r _ hbracket hbrace =>
    simp [plain_eq_error_iff he, hbracket, hbrace]

/-- **A limit is met at the place of a value.** Reading stops at a limit exactly if it comes to a value that opens a
container with none left, or is an overlong integer. -/
theorem value_eq_error_iff (he : e.IsLimit) :
    value d t = .error e ↔ ∃ d' u, ValueAt d t d' u ∧ Meets d' u e := by
  induction d using Nat.strong_induction_on generalizing t with
  | h d ih =>
    rw [value_eq_error_step he, exists_valueAt_iff]
    refine or_congr_right (or_congr ?_ ?_)
    · refine exists_congr fun k => exists_congr fun r => exists_congr fun c => exists_congr fun s =>
        exists_congr fun u => and_congr_right fun hd => ?_
      rw [ih k (by omega)]
    · refine exists_congr fun k => exists_congr fun r => exists_congr fun c => exists_congr fun s =>
        exists_congr fun u => and_congr_right fun hd => ?_
      rw [ih k (by omega)]

/-! ## Whole texts -/

/-- Reading a whole text whose containers may nest to a depth comes to a value that meets a limit. A text with a byte
order mark is not looked into. -/
def MeetsLimit (depth : Nat) (t : Text) (e : Stop) : Prop :=
  t.head? ≠ some (CodePoint.ofNat 0xFEFF) ∧ ∃ d u, ValueAt depth (skip t) d u ∧ Meets d u e

theorem whole_eq_error_iff (he : e.IsLimit) :
    whole depth t = .error e ↔ ∃ d u, ValueAt depth (skip t) d u ∧ Meets d u e := by
  rw [← value_eq_error_iff he, whole, bind_eq_error_iff, or_iff_left]
  rintro ⟨⟨v, r⟩, -, h⟩
  dsimp only at h
  split at h
  · cases h
  · exact onlyFaults_fault _ _ e h he

theorem unmarked_eq_error_iff (he : e.IsLimit) : unmarked depth t = .error e ↔ MeetsLimit depth t e := by
  unfold unmarked MeetsLimit
  split_ifs with hmark
  · have hfault : (.error (.fault .byteOrderMark t) : Except Stop Document) ≠ .error e :=
      fun h => onlyFaults_fault _ _ e h he
    simp [hmark, hfault]
  · rw [whole_eq_error_iff he]
    simp [hmark]

/-- Of a text that meets a limit the limit is told, without a place. -/
theorem read_eq_error_iff (e : Stop) (he : e.IsLimit) :
    read depth t = .error (ReadError.ofStop t e) ↔ MeetsLimit depth t e := by
  rw [← unmarked_eq_error_iff he, read]
  cases unmarked depth t with
  | ok v => simp [Except.mapError]
  | error stop =>
    cases e with
    | fault fault rest => exact absurd he id
    | tooDeep container => cases stop <;> simp [Except.mapError, ReadError.ofStop]
    | tooManyDigits n => cases stop <;> simp [Except.mapError, ReadError.ofStop]

theorem read_eq_tooDeep_iff {container : Container} :
    read depth t = .error (.tooDeep container) ↔ MeetsLimit depth t (.tooDeep container) :=
  read_eq_error_iff (.tooDeep container) trivial

theorem read_eq_tooManyDigits_iff :
    read depth t = .error (.tooManyDigits n) ↔ MeetsLimit depth t (.tooManyDigits n) :=
  read_eq_error_iff (.tooManyDigits n) trivial

/-! ## What a text at a limit holds -/

section Suffixes

variable {item : Reader Document} (hitem : ∀ t, Consumed t (item t))

include hitem

theorem itemAt_suffix (h : ItemAt item t u) : u <:+ t := by
  induction h with
  | first => exact List.suffix_rfl
  | next hok hskip _ ih =>
    exact ih.trans ((skip_suffix _).trans ((shorter_of_skip hskip).suffix.trans (hitem _ _ _ hok).suffix))

theorem memberAt_suffix (h : MemberAt item t u) : u <:+ t := by
  induction h with
  | first hname => exact (consumed_memberName _ _ _ hname).suffix
  | next hname hok hskip _ ih =>
    have hvalue : _ <:+ _ := (hitem _ _ _ hok).suffix.trans (consumed_memberName _ _ _ hname).suffix
    exact ih.trans ((skip_suffix _).trans ((shorter_of_skip hskip).suffix.trans hvalue))

end Suffixes

/-- An opening bracket or brace. -/
def isOpening (c : CodePoint) : Bool := c = '[' || c = '\x7b'

/-- Each container that was opened on the way to a value has its opening before the value. -/
theorem exists_openings_of_valueAt {d' : Nat} (h : ValueAt d t d' u) :
    ∃ before, t = before ++ u ∧ d ≤ d' + before.countP isOpening := by
  induction h with
  | here d t => exact ⟨[], rfl, Nat.le_add_right d _⟩
  | @inArray d e c r s u v hskip _ hitem _ ih =>
    obtain ⟨before, rfl, hcount⟩ := ih
    obtain ⟨items, hitems⟩ := itemAt_suffix (consumed_value d) hitem
    obtain ⟨blanks, hblanks⟩ := skip_suffix r
    refine ⟨CodePoint.ofChar '[' :: (blanks ++ items ++ before), ?_, ?_⟩
    · rw [← hblanks, hskip, ← hitems]
      simp
    · have hopening : isOpening '[' := by decide
      simp only [List.countP_cons_of_pos hopening, List.countP_append]
      omega
  | @inObject d e c r s u v hskip _ hmember _ ih =>
    obtain ⟨before, rfl, hcount⟩ := ih
    obtain ⟨members, hmembers⟩ := memberAt_suffix (consumed_value d) hmember
    obtain ⟨blanks, hblanks⟩ := skip_suffix r
    refine ⟨CodePoint.ofChar '\x7b' :: (blanks ++ members ++ before), ?_, ?_⟩
    · rw [← hblanks, hskip, ← hmembers]
      simp
    · have hopening : isOpening '\x7b' := by decide
      simp only [List.countP_cons_of_pos hopening, List.countP_append]
      omega

/-- A text that nests too deep opens more containers than may be open at a time. -/
theorem depth_lt_of_meetsLimit {container : Container} (h : MeetsLimit depth t (.tooDeep container)) :
    depth < t.countP isOpening := by
  obtain ⟨-, d, u, hplace, hmeets⟩ := h
  obtain ⟨before, hbefore, hcount⟩ := exists_openings_of_valueAt hplace
  obtain ⟨blanks, hblanks⟩ := skip_suffix t
  have hu : d = 0 ∧ ∃ c r, u = c :: r ∧ isOpening c := by
    cases hmeets with
    | array r => exact ⟨rfl, _, r, rfl, by decide⟩
    | object r => exact ⟨rfl, _, r, rfl, by decide⟩
  obtain ⟨rfl, c, r, rfl, hc⟩ := hu
  rw [← hblanks, hbefore]
  simp only [List.countP_append, List.countP_cons_of_pos hc]
  omega

/-- A text with an overlong integer holds its digits. -/
theorem exists_digits_of_meetsLimit (h : MeetsLimit depth t (.tooManyDigits n)) :
    maxDigits < n ∧ ∃ before digits after, t = before ++ digits ++ after ∧ digits.length = n ∧
      digits.all CodePoint.isDigit := by
  obtain ⟨-, d, u, hplace, hmeets⟩ := h
  obtain ⟨before, hbefore, -⟩ := exists_openings_of_valueAt hplace
  obtain ⟨blanks, hblanks⟩ := skip_suffix t
  cases hmeets with
  | digits hover =>
    obtain ⟨digits, rest, rfl | rfl, hlen, hmany, hall, -⟩ := hover
    · refine ⟨hmany, blanks ++ before, digits, rest, ?_, hlen, hall⟩
      rw [← hblanks, hbefore]
      simp
    · refine ⟨hmany, blanks ++ before ++ [CodePoint.ofChar '-'], digits, rest, ?_, hlen, hall⟩
      rw [← hblanks, hbefore]
      simp

end IndexOptions.Document
