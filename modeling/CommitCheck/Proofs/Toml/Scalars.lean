import CommitCheck.Proofs.Number.Decimal
import CommitCheck.Proofs.Run
import CommitCheck.Toml.Scalars

/-!
# Numbers written and read as TOML

A run of digits is read up to the first character that cannot go on with it
(`digitRun_append`).  So a layout of digits is taken apart into its whole part, its fraction and
its exponent, whichever of its three forms it has (`decimal_layout`), and the text of a positive
number reads back as the number (`number_text`).  The same holds of whole numbers that do not
have too many digits (`number_intText`).

A numeral is not a date and not a time of day (`stamp?_of_isNumeral`), so the word that a
numeral is in a document is its number (`scalar_of_isNumeral`).
-/

namespace CommitCheck.Toml

open Binary64 (layout ofDecimal)

/-! ## Runs of digits -/

/-- Whether a text does not go on with digits that stand before it. -/
def EndsDigits (t : Text) : Prop := ∀ c cs, t = c :: cs → c.isDigit = false ∧ c ≠ '_'

theorem endsDigits_nil : EndsDigits [] := fun _ _ h => nomatch h

theorem endsDigits_cons {c : Char} {cs : Text} (hc : c.isDigit = false) (h : c ≠ '_') :
    EndsDigits (c :: cs) := by
  rintro d ds hd
  obtain ⟨rfl, rfl⟩ := List.cons.inj hd
  exact ⟨hc, h⟩

variable {ds rest : Text}

theorem digitRun_of_endsDigits (h : EndsDigits rest) :
    digitRun Char.isDigit rest = ([], rest) := by
  cases rest with
  | nil => rfl
  | cons c cs =>
    obtain ⟨hdigit, hlow⟩ := h c cs rfl
    unfold digitRun
    rw [if_neg (by simp [hdigit])]
    split
    · exact absurd rfl hlow
    · rfl

/-- A run of digits is read up to the first character that cannot go on with it. -/
theorem digitRun_append (hds : ∀ c ∈ ds, c.isDigit = true) (h : EndsDigits rest) :
    digitRun Char.isDigit (ds ++ rest) = (ds, rest) := by
  induction ds with
  | nil => exact digitRun_of_endsDigits h
  | cons d ds ih =>
    rw [List.forall_mem_cons] at hds
    rw [List.cons_append]
    unfold digitRun
    rw [if_pos hds.1, ih hds.2]

theorem wholeRun?_of_isDigit (hds : ∀ c ∈ ds, c.isDigit = true) (hne : ds ≠ []) :
    wholeRun? Char.isDigit ds = some ds := by
  have hrun := digitRun_append hds endsDigits_nil
  rw [List.append_nil] at hrun
  cases ds with
  | nil => exact absurd rfl hne
  | cons d ds =>
    have hd : ((d :: ds).head?.map Char.isDigit).getD false = true := hds d List.mem_cons_self
    unfold wholeRun?
    rw [if_pos hd, hrun]

/-! ## The parts of a numeral -/

/-- The whole part at the start of a text, and the text after it. -/
def wholePart (t : Text) : Option (Text × Text) :=
  match t with
  | '0' :: cs => some (['0'], cs)
  | c :: cs => if c.isDigit then some (digitRun Char.isDigit (c :: cs)) else none
  | [] => none

theorem wholePart_append (hds : LeadingDigits ds) (h : EndsDigits rest) :
    wholePart (ds ++ rest) = some (ds, rest) := by
  have hrun := digitRun_append hds.isDigit h
  cases ds with
  | nil => exact absurd rfl hds.ne_nil
  | cons d ds =>
    have hd : d.isDigit = true := hds.isDigit d List.mem_cons_self
    rw [List.cons_append] at hrun ⊢
    unfold wholePart
    split
    · rename_i heq
      exact absurd (congrArg List.head? heq) hds.first
    · rename_i heq
      obtain ⟨rfl, rfl⟩ := List.cons.inj heq
      rw [if_pos hd, hrun]
    · rename_i heq
      exact absurd heq (List.cons_ne_nil _ _)

theorem fraction_append (hds : ∀ c ∈ ds, c.isDigit = true) (hne : ds ≠ []) (h : EndsDigits rest) :
    fraction ('.' :: (ds ++ rest)) = (ds, rest) := by
  have hrun := digitRun_append hds h
  cases ds with
  | nil => exact absurd rfl hne
  | cons d ds =>
    have hd : d.isDigit = true := hds d List.mem_cons_self
    unfold fraction
    rw [List.cons_append] at hrun ⊢
    exact (if_pos hd).trans hrun

variable (negative : Bool)

/-- A text of which a whole part was read is a number with a fraction or an exponent. -/
theorem decimal_of_parts {t whole part rest tail : Text} {exponent : Option Int}
    (hwhole : wholePart t = some (whole, tail)) (hpart : fraction tail = (part, rest))
    (hexponent : exponent? rest = some exponent)
    (hfloat : part ≠ [] ∨ startsExponent rest = true ∧ exponent.isSome = true) :
    decimal negative t = .ok (.float (ofDecimal negative (ofDigits (whole ++ part))
      (exponent.getD 0 - part.length))) := by
  have hlong : (part.isEmpty && !startsExponent rest && digitLimit < whole.length) = false := by
    rcases hfloat with h | h <;> simp [h]
  have hinteger : (part.isEmpty && exponent.isNone) = false := by
    rcases hfloat with h | h <;> cases exponent <;> simp_all
  unfold decimal
  change (orMalformed (wholePart t) >>= _) = _
  rw [hwhole]
  dsimp only [orMalformed, Bind.bind, Except.bind]
  rw [hpart]
  dsimp only
  rw [hlong, if_neg Bool.false_ne_true, hexponent]
  dsimp only
  rw [hinteger, if_neg Bool.false_ne_true]
  rfl

/-! ## Layouts -/

theorem digit_ne {d c : Char} (hd : d.isDigit = true) (hc : c.isDigit = false) : d ≠ c := by
  rintro rfl
  rw [hd] at hc
  exact Bool.noConfusion hc

/-- The sign and the digits of an exponent. -/
def exponentText (k : Int) : Text :=
  'e' :: (if k < 0 then '-' else '+') :: padLeft 2 '0' (natText k.natAbs)

theorem padLeft_natText (n : Nat) :
    (∀ c ∈ padLeft 2 '0' (natText n), c.isDigit = true) ∧ padLeft 2 '0' (natText n) ≠ [] ∧
      ofDigits (padLeft 2 '0' (natText n)) = n := by
  refine ⟨fun c hc => isDigit_of_mem_padLeft hc,
    List.append_ne_nil_of_right_ne_nil _ (natText_ne_nil n), ?_⟩
  unfold padLeft
  rw [ofDigits_zeros_append, ofDigits_natText]

theorem splitSign_exponentText (k : Int) {ds : Text} :
    Decimal.splitSign ((if k < 0 then '-' else '+') :: ds) = (decide (k < 0), ds) := by
  split <;> rename_i h <;> simp [Decimal.splitSign, h]

theorem exponent?_exponentText (k : Int) : exponent? (exponentText k) = some (some k) := by
  obtain ⟨hdigits, hne, hvalue⟩ := padLeft_natText k.natAbs
  unfold exponentText exponent?
  dsimp only
  rw [if_pos (by decide), splitSign_exponentText]
  dsimp only
  rw [wholeRun?_of_isDigit hdigits hne]
  simp only [Option.map_some, hvalue, decide_eq_true_eq, Option.some.injEq]
  split <;> omega

theorem startsExponent_exponentText (k : Int) : startsExponent (exponentText k) = true := by
  obtain ⟨hdigits, hne, -⟩ := padLeft_natText k.natAbs
  unfold exponentText startsExponent
  dsimp only
  rw [splitSign_exponentText]
  cases hds : padLeft 2 '0' (natText k.natAbs) with
  | nil => exact absurd hds hne
  | cons d ds =>
    rw [hds] at hdigits
    exact hdigits d List.mem_cons_self

/-- Digits with a point among them. -/
theorem decimal_point {whole part : Text} (hwhole : LeadingDigits whole)
    (hpart : ∀ c ∈ part, c.isDigit = true) (hne : part ≠ []) :
    decimal negative (whole ++ '.' :: part) =
      .ok (.float (ofDecimal negative (ofDigits (whole ++ part)) (-part.length))) := by
  have hpoint : EndsDigits ('.' :: part) := endsDigits_cons (by decide) (by decide)
  have hfraction := fraction_append hpart hne endsDigits_nil
  rw [List.append_nil] at hfraction
  rw [decimal_of_parts negative (wholePart_append hwhole hpoint) hfraction rfl (.inl hne),
    Option.getD_none, Int.zero_sub]

/-- Digits behind a point and zeros. -/
theorem decimal_below_one (hds : LeadingDigits ds) (n : Nat) :
    decimal negative ('0' :: '.' :: (List.replicate n '0' ++ ds)) =
      .ok (.float (ofDecimal negative (ofDigits ds) (-(n + ds.length)))) := by
  have hpart : ∀ c ∈ List.replicate n '0' ++ ds, c.isDigit = true := fun c hc =>
    (List.mem_append.1 hc).elim isDigit_of_mem_zeros (hds.isDigit c)
  have hne : List.replicate n '0' ++ ds ≠ [] := List.append_ne_nil_of_right_ne_nil _ hds.ne_nil
  have hfraction := fraction_append hpart hne endsDigits_nil
  rw [List.append_nil] at hfraction
  have hvalue : ofDigits (['0'] ++ (List.replicate n '0' ++ ds)) = ofDigits ds :=
    ofDigits_zeros_append (n + 1) ds
  have hwhole : wholePart ('0' :: '.' :: (List.replicate n '0' ++ ds)) =
      some (['0'], '.' :: (List.replicate n '0' ++ ds)) := rfl
  rw [decimal_of_parts negative hwhole hfraction rfl (.inl hne), hvalue, Option.getD_none,
    Int.zero_sub, List.length_append, List.length_replicate, Int.natCast_add]

/-- Digits with zeros behind them. -/
theorem decimal_whole (hds : LeadingDigits ds) (n : Nat) :
    decimal negative (ds ++ List.replicate n '0' ++ ['.', '0']) =
      .ok (.float (ofDecimal negative (ofDigits ds) n)) := by
  have hvalue : ofDigits (ds ++ List.replicate n '0' ++ ['0']) = ofDigits ds * tenTo (n + 1) := by
    rw [List.append_assoc, ← List.replicate_succ']
    exact ofDigits_append_zeros ds (n + 1)
  have hexponent : -((['0'] : Text).length : Int) + (n + 1 : Nat) = n := by
    rw [List.length_singleton]
    omega
  have hzeros : ∀ c ∈ List.replicate n '0', c.isDigit = true := fun _ => isDigit_of_mem_zeros
  rw [decimal_point negative (hds.append hzeros) (List.forall_mem_singleton.2 rfl) (by decide),
    hvalue, Binary64.ofDecimal_mul_tenTo, hexponent]

/-- Digits with an exponent. -/
theorem decimal_exponent (hds : LeadingDigits ds) (k : Int) :
    decimal negative (ds ++ exponentText k) =
      .ok (.float (ofDecimal negative (ofDigits ds) k)) := by
  have hends : EndsDigits (exponentText k) := endsDigits_cons (by decide) (by decide)
  have hfraction : fraction (exponentText k) = ([], exponentText k) := rfl
  have hexponent : (some k).getD 0 - (([] : Text).length : Int) = k := Int.sub_zero k
  rw [decimal_of_parts negative (wholePart_append hds hends) hfraction (exponent?_exponentText k)
    (.inr ⟨startsExponent_exponentText k, rfl⟩), List.append_nil, hexponent]

/-- Digits with a point among them and an exponent. -/
theorem decimal_point_exponent {whole part : Text} (hwhole : LeadingDigits whole)
    (hpart : ∀ c ∈ part, c.isDigit = true) (hne : part ≠ []) (k : Int) :
    decimal negative (whole ++ '.' :: (part ++ exponentText k)) =
      .ok (.float (ofDecimal negative (ofDigits (whole ++ part)) (k - part.length))) := by
  have hpoint : EndsDigits ('.' :: (part ++ exponentText k)) :=
    endsDigits_cons (by decide) (by decide)
  have hends : EndsDigits (exponentText k) := endsDigits_cons (by decide) (by decide)
  exact decimal_of_parts negative (wholePart_append hwhole hpoint)
    (fraction_append hpart hne hends) (exponent?_exponentText k) (.inl hne)

/-- Digits split by a point, with zeros up to the point if they do not reach it. -/
theorem decimal_split (hds : LeadingDigits ds) (n : Nat) :
    decimal negative (ds.take (n + 1) ++ List.replicate (n + 1 - (ds.take (n + 1)).length) '0' ++
        '.' :: (if (ds.drop (n + 1)).isEmpty then ['0'] else ds.drop (n + 1))) =
      .ok (.float (ofDecimal negative (ofDigits ds) (n + 1 - ds.length))) := by
  rcases Nat.lt_or_ge (n + 1) ds.length with long | short
  · have hne : ds.drop (n + 1) ≠ [] := fun hnil => Nat.not_le.2 long (List.drop_eq_nil_iff.1 hnil)
    have hdigits : ∀ c ∈ ds.drop (n + 1), c.isDigit = true := fun c hc =>
      hds.isDigit c (List.mem_of_mem_drop hc)
    have hfull : n + 1 - (ds.take (n + 1)).length = 0 := by
      rw [List.length_take]
      omega
    have hexponent : -((ds.drop (n + 1)).length : Int) = n + 1 - ds.length := by
      rw [List.length_drop]
      omega
    rw [hfull, List.replicate_zero, List.append_nil, if_neg (by simpa using hne),
      decimal_point negative (hds.take n) hdigits hne, List.take_append_drop, hexponent]
  · have hexponent : ((n + 1 - ds.length : Nat) : Int) = n + 1 - ds.length := by omega
    rw [List.take_of_length_le short, List.drop_of_length_le short, if_pos List.isEmpty_nil,
      decimal_whole negative hds, hexponent]

/-- Digits with a point behind the first one, if there are more, and an exponent. -/
theorem decimal_scientific (hds : LeadingDigits ds) (k : Int) :
    decimal negative (ds.take 1 ++ (match ds.drop 1 with
        | [] => []
        | part => '.' :: part) ++ exponentText k) =
      .ok (.float (ofDecimal negative (ofDigits ds) (k + 1 - ds.length))) := by
  have hpositive : 0 < ds.length := List.length_pos_of_ne_nil hds.ne_nil
  have hlength : (ds.drop 1).length = ds.length - 1 := List.length_drop
  cases hdrop : ds.drop 1 with
  | nil =>
    have hone : ds.length ≤ 1 := List.drop_eq_nil_iff.1 hdrop
    have hexponent : k + 1 - ds.length = k := by omega
    dsimp only
    rw [List.append_nil, List.take_of_length_le hone, decimal_exponent negative hds, hexponent]
  | cons d es =>
    have hdigits : ∀ c ∈ d :: es, c.isDigit = true := fun c hc =>
      hds.isDigit c (List.mem_of_mem_drop (hdrop ▸ hc))
    rw [hdrop] at hlength
    have hexponent : k - ((d :: es).length : Int) = k + 1 - ds.length := by omega
    dsimp only
    rw [List.append_assoc, List.cons_append,
      decimal_point_exponent negative (hds.take 0) hdigits (List.cons_ne_nil d es), hexponent,
      ← hdrop, List.take_append_drop]

/-- A layout of digits reads back, whichever of its forms it has. -/
theorem decimal_layout (hds : LeadingDigits ds) (k : Int) :
    decimal negative (layout ds k) =
      .ok (.float (ofDecimal negative (ofDigits ds) (k + 1 - ds.length))) := by
  unfold layout
  split
  · split
    · have hexponent : -(((-k - 1).toNat : Int) + ds.length) = k + 1 - ds.length := by omega
      rw [decimal_below_one negative hds, hexponent]
    · have hk : (k.toNat : Int) = k := by omega
      have hread := decimal_split negative hds k.toNat
      rw [hk] at hread
      exact hread
  · exact decimal_scientific negative hds k

/-! ## Whole numbers -/

theorem wholePart_natText (n : Nat) : wholePart (natText n) = some (natText n, []) := by
  by_cases hn : n = 0
  · subst hn
    rfl
  · have hread := wholePart_append (leadingDigits_natText hn) endsDigits_nil
    rw [List.append_nil] at hread
    exact hread

/-- A whole number that does not have too many digits reads back. -/
theorem decimal_natText {n : Nat} (hn : (natText n).length ≤ digitLimit) :
    decimal negative (natText n) = .ok (.int (if negative then -n else n)) := by
  have hfraction : fraction [] = ([], []) := rfl
  have hexponent : exponent? [] = some none := rfl
  have hlong : (([] : Text).isEmpty && !startsExponent [] && digitLimit < (natText n).length) =
      false := by
    rw [decide_eq_false (Nat.not_lt.2 hn), Bool.and_false]
  unfold decimal
  change (orMalformed (wholePart (natText n)) >>= _) = _
  rw [wholePart_natText]
  dsimp only [orMalformed, Bind.bind, Except.bind]
  rw [hfraction]
  dsimp only
  rw [hlong, if_neg Bool.false_ne_true, hexponent]
  dsimp only
  refine (if_pos rfl).trans ?_
  rw [ofDigits_natText]
  rfl

/-! ## Numerals -/

/-- Digits, points, exponents and signs, of which at most one is a hyphen. -/
structure IsNumeral (t : Text) : Prop where
  /-- What its characters are. -/
  chars : ∀ c ∈ t, c.isDigit = true ∨ c ∈ ['.', 'e', '+', '-']
  /-- There is at most one hyphen. -/
  hyphens : t.count '-' ≤ 1

theorem IsNumeral.not_mem {t : Text} (h : IsNumeral t) {c : Char} (hdigit : c.isDigit = false)
    (hother : c ∉ ['.', 'e', '+', '-']) : c ∉ t := fun hc =>
  (h.chars c hc).elim (fun hd => digit_ne hd hdigit rfl) hother

/-- Whether a text has nothing but digits and points. -/
def IsPointed (t : Text) : Prop := ∀ c ∈ t, c.isDigit = true ∨ c = '.'

theorem isPointed_of_isDigit {t : Text} (h : ∀ c ∈ t, c.isDigit = true) : IsPointed t :=
  fun c hc => .inl (h c hc)

theorem isPointed_zeros (n : Nat) : IsPointed (List.replicate n '0') :=
  isPointed_of_isDigit fun _ => isDigit_of_mem_zeros

theorem IsPointed.append {t u : Text} (ht : IsPointed t) (hu : IsPointed u) : IsPointed (t ++ u) :=
  fun c hc => (List.mem_append.1 hc).elim (ht c) (hu c)

theorem IsPointed.point {t : Text} (ht : IsPointed t) : IsPointed ('.' :: t) :=
  List.forall_mem_cons.2 ⟨.inr rfl, ht⟩

theorem IsPointed.count_hyphen {t : Text} (h : IsPointed t) : t.count '-' = 0 := by
  refine List.count_eq_zero.2 fun hc => ?_
  rcases h _ hc with hd | hp
  · exact absurd hd (by decide)
  · exact absurd hp (by decide)

theorem IsPointed.isNumeral {t : Text} (h : IsPointed t) : IsNumeral t where
  chars c hc := (h c hc).imp_right fun hp => by
    rw [hp]
    exact List.mem_cons_self
  hyphens := by
    rw [h.count_hyphen]
    exact Nat.zero_le 1

theorem IsPointed.isNumeral_exponent {t : Text} (h : IsPointed t) (k : Int) :
    IsNumeral (t ++ exponentText k) := by
  have hdigits := isPointed_of_isDigit (padLeft_natText k.natAbs).1
  unfold exponentText
  refine ⟨fun c hc => ?_, ?_⟩
  · rcases List.mem_append.1 hc with ht | he
    · exact h.isNumeral.chars c ht
    · rcases List.mem_cons.1 he with rfl | he
      · exact .inr (by decide)
      · rcases List.mem_cons.1 he with rfl | he
        · exact .inr (by split <;> decide)
        · exact hdigits.isNumeral.chars c he
  · rw [List.count_append, h.count_hyphen, List.count_cons, List.count_cons, hdigits.count_hyphen]
    split <;> simp

/-- Every layout of digits is a numeral. -/
theorem isNumeral_layout (hds : LeadingDigits ds) (k : Int) : IsNumeral (layout ds k) := by
  have hpointed := isPointed_of_isDigit hds.isDigit
  have htake : ∀ n, IsPointed (ds.take n) := fun n c hc => hpointed c (List.mem_of_mem_take hc)
  have hdrop : ∀ n, IsPointed (ds.drop n) := fun n c hc => hpointed c (List.mem_of_mem_drop hc)
  unfold layout
  split
  · split
    · exact ((isPointed_zeros 1).append ((isPointed_zeros _).append hpointed).point).isNumeral
    · dsimp only
      refine (((htake _).append (isPointed_zeros _)).append (IsPointed.point ?_)).isNumeral
      split
      · exact isPointed_zeros 1
      · exact hdrop _
  · dsimp only
    refine IsPointed.isNumeral_exponent ((htake 1).append ?_) k
    have hrest := hdrop 1
    split
    · exact fun c hc => absurd hc List.not_mem_nil
    · exact hrest.point

theorem isNumeral_intText (n : Int) : IsNumeral (intText n) := by
  cases n with
  | ofNat n => exact (isPointed_of_isDigit fun _ => isDigit_of_mem_natText).isNumeral
  | negSucc n =>
    have hdigits := isPointed_of_isDigit fun _ => isDigit_of_mem_natText (n := n + 1)
    refine ⟨List.forall_mem_cons.2 ⟨.inr (by decide), hdigits.isNumeral.chars⟩, ?_⟩
    rw [intText, List.count_cons, hdigits.count_hyphen]
    decide

/-- A numeral has no mark of a base. -/
theorem based?_of_isNumeral {t : Text} (h : IsNumeral t) : based? t = none := by
  unfold based?
  split
  · exact absurd (by simp) (h.not_mem (c := 'x') (by decide) (by decide))
  · exact absurd (by simp) (h.not_mem (c := 'o') (by decide) (by decide))
  · exact absurd (by simp) (h.not_mem (c := 'b') (by decide) (by decide))
  · rfl

/-- A numeral is a decimal numeral behind its sign. -/
theorem number_of_isNumeral {t : Text} (h : IsNumeral t) :
    number t = decimal (Decimal.splitSign t).1 (Decimal.splitSign t).2 := by
  have hsub : ∀ c ∈ (Decimal.splitSign t).2, c ∈ t := by
    unfold Decimal.splitSign
    split
    · exact fun c hc => List.mem_cons_of_mem _ hc
    · exact fun c hc => List.mem_cons_of_mem _ hc
    · exact fun c hc => hc
  have hn : 'n' ∉ (Decimal.splitSign t).2 := fun hc =>
    h.not_mem (by decide) (by decide) (hsub _ hc)
  have hinf : (Decimal.splitSign t).2 ≠ "inf" := fun heq => hn (by rw [heq]; decide)
  have hnan : (Decimal.splitSign t).2 ≠ "nan" := fun heq => hn (by rw [heq]; decide)
  unfold number
  rw [based?_of_isNumeral h]
  exact (if_neg hinf).trans (if_neg hnan)

/-- A text that starts with a digit has no sign. -/
theorem splitSign_of_isDigit {c : Char} {cs : Text} (hc : c.isDigit = true) :
    Decimal.splitSign (c :: cs) = (false, c :: cs) := by
  unfold Decimal.splitSign
  split
  · rename_i heq
    exact absurd (List.cons.inj heq).1 (digit_ne hc (by decide))
  · rename_i heq
    exact absurd (List.cons.inj heq).1 (digit_ne hc (by decide))
  · rfl

/-- Every layout of digits starts with a digit. -/
theorem exists_layout_eq_cons (hds : LeadingDigits ds) (k : Int) :
    ∃ c cs, c.isDigit = true ∧ layout ds k = c :: cs := by
  obtain ⟨d, es, rfl⟩ := List.exists_cons_of_ne_nil hds.ne_nil
  have hd : d.isDigit = true := hds.isDigit d List.mem_cons_self
  unfold layout
  split
  · split
    · exact ⟨'0', _, rfl, rfl⟩
    · exact ⟨d, _, hd, rfl⟩
  · exact ⟨d, _, hd, rfl⟩

/-- The text of a positive number reads back as the number. -/
theorem number_text {x : Binary64} (hx : x.isPositive = true) : number x.text = .ok (.float x) := by
  obtain rfl | ⟨ds, k, htext, hds, hread⟩ := Binary64.eq_infinite_or_layout hx
  · rfl
  · obtain ⟨c, cs, hc, hlayout⟩ := exists_layout_eq_cons hds k
    have hsplit : Decimal.splitSign (layout ds k) = (false, layout ds k) := by
      rw [hlayout]
      exact splitSign_of_isDigit hc
    rw [htext, number_of_isNumeral (isNumeral_layout hds k), hsplit, decimal_layout false hds,
      hread]

/-- The text of a whole number that does not have too many digits reads back as the number. -/
theorem number_intText {n : Int} (hn : (natText n.natAbs).length ≤ digitLimit) :
    number (intText n) = .ok (.int n) := by
  rw [number_of_isNumeral (isNumeral_intText n)]
  cases n with
  | ofNat n =>
    obtain ⟨d, ds, hds⟩ := List.exists_cons_of_ne_nil (natText_ne_nil n)
    have hsplit : Decimal.splitSign (natText n) = (false, natText n) := by
      rw [hds]
      exact splitSign_of_isDigit (isDigit_of_mem_natText (hds ▸ List.mem_cons_self))
    rw [intText, hsplit]
    exact decimal_natText false hn
  | negSucc n => exact decimal_natText true hn

/-! ## Words -/

/-- A date has two hyphens. -/
theorem date?_of_count {t : Text} (h : t.count '-' ≤ 1) : date? t = none := by
  have hlength := length_splitAt '-' t
  unfold date?
  split
  · rename_i heq
    rw [heq] at hlength
    exact absurd h (by simp only [List.length_cons, List.length_nil] at hlength; omega)
  · rfl

/-- A time of day has a colon. -/
theorem time?_of_not_mem {t : Text} (h : ':' ∉ t) : time? t = none := by
  have hlength := length_splitAt ':' t
  rw [List.count_eq_zero.2 h] at hlength
  unfold time?
  split
  · rename_i heq
    rw [heq] at hlength
    exact absurd hlength (by simp)
  · rename_i heq
    rw [heq] at hlength
    exact absurd hlength (by simp)
  · rfl

/-- A numeral is neither a date nor a time of day. -/
theorem stamp?_of_isNumeral {t : Text} (h : IsNumeral t) : stamp? t = none := by
  unfold stamp?
  rw [date?_of_count h.hyphens, time?_of_not_mem (h.not_mem (by decide) (by decide))]
  cases hdrop : t.drop 10 with
  | nil => rfl
  | cons c time =>
    have hc : c ∈ t := List.mem_of_mem_drop (hdrop ▸ List.mem_cons_self)
    have hcapital : c ≠ 'T' := fun heq => h.not_mem (by decide) (by decide) (heq ▸ hc)
    have hsmall : c ≠ 't' := fun heq => h.not_mem (by decide) (by decide) (heq ▸ hc)
    simp [hcapital, hsmall]

theorem word_of_isNumeral {t : Text} (h : IsNumeral t) : word t = number t := by
  have ht : 't' ∉ t := h.not_mem (by decide) (by decide)
  have hf : 'f' ∉ t := h.not_mem (by decide) (by decide)
  have htrue : t ≠ "true" := fun heq => ht (by rw [heq]; decide)
  have hfalse : t ≠ "false" := fun heq => hf (by rw [heq]; decide)
  unfold word
  rw [if_neg htrue, if_neg hfalse, stamp?_of_isNumeral h]

/-- A word that ends its line is read as a whole. -/
theorem scalar_append {t : Text} (ht : t.all (!isDelimiter ·) = true) (hdate : date? t = none)
    (rest : Text) : scalar (t ++ '\n' :: rest) = (word t).map (·, '\n' :: rest) := by
  have hkept : ∀ c ∈ t, (!isDelimiter c) = true := List.all_eq_true.1 ht
  have hfirst : (t ++ '\n' :: rest).takeWhile (!isDelimiter ·) = t := by
    rw [List.takeWhile_append_of_pos hkept]
    exact List.append_nil t
  have hrest : (t ++ '\n' :: rest).dropWhile (!isDelimiter ·) = '\n' :: rest := by
    rw [List.dropWhile_append_of_pos hkept]
    rfl
  unfold scalar
  rw [hfirst, hrest]
  dsimp only
  unfold twoWords?
  rw [hdate]
  rfl

/-- A numeral is one word. -/
theorem IsNumeral.all_not_isDelimiter {t : Text} (h : IsNumeral t) :
    t.all (!isDelimiter ·) = true := by
  refine List.all_eq_true.2 fun c hc => ?_
  cases hd : isDelimiter c with
  | false => rfl
  | true =>
    simp only [isDelimiter, Bool.or_eq_true, beq_iff_eq] at hd
    rcases hd with (((((rfl | rfl) | rfl) | rfl) | rfl) | rfl) | rfl <;>
      exact absurd hc (h.not_mem (by decide) (by decide))

theorem scalar_of_isNumeral {t : Text} (h : IsNumeral t) (rest : Text) :
    scalar (t ++ '\n' :: rest) = (number t).map (·, '\n' :: rest) := by
  rw [scalar_append h.all_not_isDelimiter (date?_of_count h.hyphens), word_of_isNumeral h]

theorem scalar_text {x : Binary64} (hx : x.isPositive = true) (rest : Text) :
    scalar (x.text ++ '\n' :: rest) = .ok (.float x, '\n' :: rest) := by
  have hnumber := number_text hx
  obtain rfl | ⟨ds, k, htext, hds, -⟩ := Binary64.eq_infinite_or_layout hx
  · exact scalar_append (by decide) (by decide) rest
  · rw [htext] at hnumber ⊢
    rw [scalar_of_isNumeral (isNumeral_layout hds k), hnumber]
    rfl

theorem scalar_intText {n : Int} (hn : (natText n.natAbs).length ≤ digitLimit) (rest : Text) :
    scalar (intText n ++ '\n' :: rest) = .ok (.int n, '\n' :: rest) := by
  rw [scalar_of_isNumeral (isNumeral_intText n), number_intText hn]
  rfl

theorem scalar_bool (b : Bool) (rest : Text) :
    scalar ((if b then "true" else "false" : Text) ++ '\n' :: rest) =
      .ok (.bool b, '\n' :: rest) := by
  cases b <;> exact scalar_append (by decide) (by decide) rest

end CommitCheck.Toml
