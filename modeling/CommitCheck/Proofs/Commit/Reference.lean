import CommitCheck.Commit.Reference

/-!
# What counts as a reference

The grammar of references, apart from the functions that look for them.

* A header *names* an issue if it is the mark, a number, a colon, and any text.
* A reference *stands* at a place of a body if the text from there on is the mark with a
  number after it, or the mark with the word for no issue.  The number is the whole run of
  digits, so the text after it does not go on with one.
* A body *cites* what stands at the first place where anything stands.

A number cannot be both a run of digits and the word for no issue, and a run of digits ends
where it ends.  So at most one reference stands at a place (`Stands.unique`).
`inHeader?_eq_some_iff` and `inBody?_eq_some_iff` say that the two functions find exactly
this.
-/

namespace CommitCheck.Reference

/-! ## Numbers -/

/-- A number is one or more of the digits 0 to 9. -/
def IsNumber (t : Text) : Prop := t ≠ [] ∧ ∀ c ∈ t, c.isDigit = true

/-- A text that does not go on with a digit. -/
def EndsNumber (rest : Text) : Prop := ∀ c, rest.head? = some c → c.isDigit = false

instance (t : Text) : Decidable (IsNumber t) :=
  decidable_of_iff ((!t.isEmpty && t.all Char.isDigit) = true) (by simp [IsNumber])

instance (rest : Text) : Decidable (EndsNumber rest) :=
  decidable_of_iff (rest.head?.all (!·.isDigit)) (by simp [EndsNumber, Option.all_eq_true])

theorem endsNumber_nil : EndsNumber [] := by
  intro c h
  cases h

theorem endsNumber_cons {c : Char} {cs : Text} (h : c.isDigit = false) : EndsNumber (c :: cs) := by
  intro d hd
  cases hd
  exact h

theorem takeWhile_number {n rest : Text} (hn : IsNumber n) (hr : EndsNumber rest) :
    (n ++ rest).takeWhile Char.isDigit = n := by
  rw [List.takeWhile_append_of_pos hn.2]
  cases rest with
  | nil => exact List.append_nil n
  | cons c cs => simp [hr c rfl]

theorem dropWhile_number {n rest : Text} (hn : IsNumber n) (hr : EndsNumber rest) :
    (n ++ rest).dropWhile Char.isDigit = rest := by
  rw [List.dropWhile_append_of_pos hn.2]
  cases rest with
  | nil => rfl
  | cons c cs => simp [hr c rfl]

/-- The digits at the start of a text are a number, if there are any. -/
theorem isNumber_takeWhile {t : Text} (h : t.takeWhile Char.isDigit ≠ []) :
    IsNumber (t.takeWhile Char.isDigit) :=
  ⟨h, fun _ hc => List.all_eq_true.1 List.all_takeWhile _ hc⟩

/-- What comes after the digits at the start of a text ends a number. -/
theorem endsNumber_dropWhile (t : Text) : EndsNumber (t.dropWhile Char.isDigit) := by
  intro c hc
  have h := List.head?_dropWhile_not Char.isDigit t
  rw [hc] at h
  simpa using h

theorem not_isNumber_nil : ¬IsNumber nil := by
  intro h
  have := h.2 'n' (by decide)
  revert this
  decide

/-! ## Headers -/

/-- A header names an issue: it starts with the mark, the number and a colon. -/
def Names (header n : Text) : Prop :=
  IsNumber n ∧ ∃ rest, header = Header.issueMark ++ n ++ ':' :: rest

theorem inHeader?_eq_some_iff {header n : Text} :
    inHeader? header = some n ↔ Names header n := by
  unfold inHeader?
  constructor
  · intro h
    split at h
    · cases h
    · rename_i rest hrest
      dsimp only at h
      split at h
      · rename_i hcond
        obtain rfl := Option.some.inj h
        rw [Bool.and_eq_true, beq_iff_eq, List.head?_eq_some_iff] at hcond
        obtain ⟨hne, more, hmore⟩ := hcond
        refine ⟨isNumber_takeWhile (by simpa using hne), more, ?_⟩
        rw [List.append_assoc, ← hmore, List.takeWhile_append_dropWhile]
        exact after?_eq_some_iff.1 hrest
      · cases h
  · rintro ⟨hn, rest, rfl⟩
    have hcolon : EndsNumber (':' :: rest) := endsNumber_cons (by decide)
    have hafter : after? Header.issueMark (Header.issueMark ++ n ++ ':' :: rest) =
        some (n ++ ':' :: rest) := after?_eq_some_iff.2 (List.append_assoc ..)
    rw [hafter]
    simp [takeWhile_number hn hcolon, dropWhile_number hn hcolon, hn.1]

theorem inHeader?_eq_none_iff {header : Text} :
    inHeader? header = none ↔ ∀ n, ¬Names header n := by
  rw [Option.eq_none_iff_forall_ne_some]
  exact forall_congr' fun n => not_congr inHeader?_eq_some_iff

/-- A header names at most one issue. -/
theorem Names.unique {header n k : Text} (hn : Names header n) (hk : Names header k) : n = k :=
  Option.some.inj ((inHeader?_eq_some_iff.2 hn).symm.trans (inHeader?_eq_some_iff.2 hk))

/-! ## Places of a body -/

/-- A reference stands at the start of a text: the mark and a whole number, or the mark and
the word for no issue. -/
inductive Stands : Text → Text → Prop
  | number {n rest : Text} : IsNumber n → EndsNumber rest →
      Stands (Header.issueMark ++ (n ++ rest)) n
  | nil (rest : Text) : Stands (Header.issueMark ++ (nil ++ rest)) nil

theorem here?_eq_some_iff {t id : Text} : here? t = some id ↔ Stands t id := by
  constructor
  · intro h
    unfold here? at h
    split at h
    · cases h
    · rename_i rest hrest
      obtain rfl := after?_eq_some_iff.1 hrest
      dsimp only at h
      split at h
      · rename_i hne
        obtain rfl := Option.some.inj h
        have hn := isNumber_takeWhile (t := rest) (by simpa using hne)
        have hs := Stands.number hn (endsNumber_dropWhile rest)
        rwa [List.takeWhile_append_dropWhile] at hs
      · split at h
        · rename_i hnil
          obtain rfl := Option.some.inj h
          obtain ⟨more, rfl⟩ := List.isPrefixOf_iff_prefix.1 hnil
          exact .nil more
        · cases h
  · intro h
    cases h with
    | number hn hr =>
      rw [here?, after?_eq_some_iff.2 rfl]
      simp [takeWhile_number hn hr, hn.1]
    | nil rest =>
      have hdigits : (nil ++ rest).takeWhile Char.isDigit = [] := rfl
      have hstart : nil.isPrefixOf (nil ++ rest) = true :=
        List.isPrefixOf_iff_prefix.2 (List.prefix_append ..)
      rw [here?, after?_eq_some_iff.2 rfl]
      simp [hdigits, hstart]

theorem here?_eq_none_iff {t : Text} : here? t = none ↔ ∀ id, ¬Stands t id := by
  rw [Option.eq_none_iff_forall_ne_some]
  exact forall_congr' fun id => not_congr here?_eq_some_iff

/-- At most one reference stands at a place. -/
theorem Stands.unique {t id id' : Text} (h : Stands t id) (h' : Stands t id') : id = id' :=
  Option.some.inj ((here?_eq_some_iff.2 h).symm.trans (here?_eq_some_iff.2 h'))

/-! ## Bodies -/

/-- A body cites what stands at a place of it if nothing stands at any place before. -/
def Cites (body id : Text) : Prop :=
  ∃ before rest, body = before ++ rest ∧ Stands rest id ∧
    ∀ start stop id', body = start ++ stop → start.length < before.length → ¬Stands stop id'

/-- Nothing stands at any place of a body. -/
def CitesNothing (body : Text) : Prop :=
  ∀ start stop id, body = start ++ stop → ¬Stands stop id

/-- A place of a text with one character more in front is its start or a place of the
text. -/
theorem forall_places_cons {c : Char} {cs : Text} {P : Text → Text → Prop} :
    (∀ start stop, c :: cs = start ++ stop → P start stop) ↔
      P [] (c :: cs) ∧ ∀ start stop, cs = start ++ stop → P (c :: start) stop := by
  constructor
  · intro h
    refine ⟨h [] _ rfl, ?_⟩
    rintro start stop rfl
    exact h (c :: start) stop rfl
  · rintro ⟨h₀, h⟩ start stop hsplit
    cases start with
    | nil =>
      obtain rfl : c :: cs = stop := hsplit
      exact h₀
    | cons d start =>
      obtain ⟨rfl, rfl⟩ := List.cons.inj hsplit
      exact h start stop rfl

theorem citesNothing_cons {c : Char} {cs : Text} :
    CitesNothing (c :: cs) ↔ (∀ id, ¬Stands (c :: cs) id) ∧ CitesNothing cs := by
  have h := @forall_places_cons c cs fun _ stop => ∀ id, ¬Stands stop id
  constructor
  · intro hn
    obtain ⟨h₀, hrest⟩ := h.1 fun start stop hs id => hn start stop id hs
    exact ⟨h₀, fun start stop id hs => hrest start stop hs id⟩
  · rintro ⟨h₀, hrest⟩ start stop id hs
    exact h.2 ⟨h₀, fun start stop hs id => hrest start stop id hs⟩ start stop hs id

/-- What a body with one character more in front cites. -/
theorem cites_cons {c : Char} {cs id : Text} :
    Cites (c :: cs) id ↔
      Stands (c :: cs) id ∨ ((∀ id', ¬Stands (c :: cs) id') ∧ Cites cs id) := by
  constructor
  · rintro ⟨before, rest, hsplit, hs, hfirst⟩
    cases before with
    | nil =>
      obtain rfl : c :: cs = rest := hsplit
      exact .inl hs
    | cons d before =>
      obtain ⟨rfl, rfl⟩ := List.cons.inj hsplit
      refine .inr ⟨fun id' => hfirst [] _ id' rfl (Nat.zero_lt_succ _), before, rest, rfl, hs, ?_⟩
      intro start stop id' hcs hlt
      exact hfirst (c :: start) stop id' (by rw [hcs]; rfl) (Nat.succ_lt_succ hlt)
  · rintro (hs | ⟨hno, before, rest, rfl, hs, hfirst⟩)
    · exact ⟨[], c :: cs, rfl, hs, fun _ _ _ _ hlt => absurd hlt (Nat.not_lt_zero _)⟩
    · refine ⟨c :: before, rest, rfl, hs, ?_⟩
      intro start stop id' hsplit hlt
      cases start with
      | nil =>
        obtain rfl : c :: (before ++ rest) = stop := hsplit
        exact hno id'
      | cons d start =>
        exact hfirst start stop id' (List.cons.inj hsplit).2 (Nat.lt_of_succ_lt_succ hlt)

theorem not_stands_nil {id : Text} : ¬Stands [] id := by
  intro h
  have hempty : here? [] = none := rfl
  rw [here?_eq_some_iff.2 h] at hempty
  cases hempty

theorem inBody?_eq_some_iff {body id : Text} : inBody? body = some id ↔ Cites body id := by
  induction body with
  | nil =>
    constructor
    · intro h
      cases h
    · rintro ⟨before, rest, hsplit, hs, -⟩
      obtain ⟨-, rfl⟩ := List.append_eq_nil_iff.1 hsplit.symm
      exact absurd hs not_stands_nil
  | cons c cs ih =>
    rw [inBody?, cites_cons]
    cases h : here? (c :: cs) with
    | some id' =>
      have hs := here?_eq_some_iff.1 h
      constructor
      · intro heq
        obtain rfl := Option.some.inj heq
        exact .inl hs
      · rintro (hs' | ⟨hno, -⟩)
        · exact congrArg some (hs.unique hs')
        · exact absurd hs (hno id')
    | none =>
      have hno := here?_eq_none_iff.1 h
      constructor
      · intro heq
        exact .inr ⟨hno, ih.1 heq⟩
      · rintro (hs | ⟨-, hcs⟩)
        · exact absurd hs (hno id)
        · exact ih.2 hcs

theorem inBody?_eq_none_iff {body : Text} : inBody? body = none ↔ CitesNothing body := by
  induction body with
  | nil =>
    refine ⟨fun _ start stop id hsplit => ?_, fun _ => rfl⟩
    obtain ⟨-, rfl⟩ := List.append_eq_nil_iff.1 hsplit.symm
    exact not_stands_nil
  | cons c cs ih =>
    rw [inBody?, citesNothing_cons]
    cases h : here? (c :: cs) with
    | some id =>
      constructor
      · intro heq
        cases heq
      · rintro ⟨hno, -⟩
        exact absurd (here?_eq_some_iff.1 h) (hno id)
    | none => exact ⟨fun heq => ⟨here?_eq_none_iff.1 h, ih.1 heq⟩, fun ⟨_, hcs⟩ => ih.2 hcs⟩

/-- What a body cites is the word for no issue or a number. -/
theorem Cites.eq_nil_or_isNumber {body id : Text} (h : Cites body id) :
    id = nil ∨ IsNumber id := by
  obtain ⟨_, _, -, hs, -⟩ := h
  cases hs with
  | number hn _ => exact .inr hn
  | nil => exact .inl rfl

/-- A body cites something or nothing stands in it. -/
theorem cites_or_citesNothing (body : Text) : (∃ id, Cites body id) ∨ CitesNothing body := by
  cases h : inBody? body with
  | some id => exact .inl ⟨id, inBody?_eq_some_iff.1 h⟩
  | none => exact .inr (inBody?_eq_none_iff.1 h)

end CommitCheck.Reference
