import CommitCheck.Proofs.Console.Scan
import CommitCheck.Proofs.Text.Pieces

/-!
# Names of pictures

Where a text names a picture, told apart from the console: two colons with the name between them,
no blank and no colon inside, and the first of the two is not the second of another pair
(`NamesPicture`).  The text is shown as it is exactly if it names none (`withPictures_eq_self_iff`).

No picture has a colon in it (`isDrawn_of_picture?`).  So a text with pictures has fewer colons
than before (`count_withPictures_lt`), and none comes up that could start another name.  The same
goes for any characters that no picture has, with colons among them (`countP_withPictures_lt`).

A text that starts with no name is shown behind another one as it is shown alone
(`withPictures_append_of_none`).
-/

namespace CommitCheck.Console

/-! ## The table -/

/-- Whether a character can be part of a picture. -/
def isDrawn (c : Char) : Bool := c != ':' && c != '\t' && c != '[' && c != '\\'

set_option maxRecDepth 8000 in
/-- No line of the table has a colon, a tab, an opening bracket or a backslash.  The characters of
each line are found by unification, because to take them out of the line is slow. -/
theorem exists_chars_of_mem_pictureLines :
    ∀ l ∈ pictureLines, ∃ cs : Text, l = String.ofList cs ∧ cs.all isDrawn = true := by
  unfold pictureLines
  repeat refine List.forall_mem_cons.2 ⟨⟨_, rfl, by decide +kernel⟩, ?_⟩
  exact List.forall_mem_nil _

theorem mem_of_mem_inPairs {ws : List Text} {p : Text × Text} (h : p ∈ inPairs ws) : p.2 ∈ ws := by
  fun_induction inPairs ws with
  | case1 name value rest ih =>
    rcases List.mem_cons.1 h with rfl | h
    · exact List.mem_cons_of_mem name List.mem_cons_self
    · exact List.mem_cons_of_mem name (List.mem_cons_of_mem value (ih h))
  | case2 ws hws => cases h

theorem isDrawn_of_plainPictures {name p : Text} (h : plainPictures.lookup name = some p) :
    ∀ c ∈ p, isDrawn c = true := by
  intro c hc
  obtain ⟨before, after, hsplit, -⟩ := List.lookup_eq_some_iff.1 h
  have hpair : (name, p) ∈ plainPictures := hsplit ▸ List.mem_append_right before List.mem_cons_self
  obtain ⟨l, hl, hword⟩ := List.mem_flatMap.1 (mem_of_mem_inPairs hpair)
  obtain ⟨cs, rfl, hdrawn⟩ := exists_chars_of_mem_pictureLines l hl
  rw [String.toList_ofList] at hword
  exact List.all_eq_true.1 hdrawn c (mem_of_mem_splitAt hword hc)

theorem isDrawn_of_toned? {name p : Text} (h : toned? name = some p) :
    ∀ c ∈ p, isDrawn c = true := by
  unfold toned? at h
  split at h
  · cases h
  · rename_i ending tone hfind
    have htone : isDrawn tone = true := by
      have hall : ∀ t ∈ tones, isDrawn t.2 = true := by decide
      exact hall _ (List.mem_of_find?_eq_some hfind)
    dsimp only at h
    split at h
    · obtain ⟨picture, hpicture, rfl⟩ := Option.map_eq_some_iff.1 h
      have hdrawn := isDrawn_of_plainPictures hpicture
      intro c hc
      cases picture with
      | nil => cases hc
      | cons d ds =>
        rw [List.forall_mem_cons] at hdrawn
        rcases List.mem_cons.1 hc with rfl | hc
        · exact hdrawn.1
        · rcases List.mem_cons.1 hc with rfl | hc
          · exact htone
          · refine hdrawn.2 c ?_
            split at hc
            · exact List.mem_of_mem_drop hc
            · exact hc
    · cases h

theorem isDrawn_flagSign (c : Char) : isDrawn (flagSign c) = true := by
  have hchar : ∀ n ≥ 0x1F1E6, (Char.ofNat n).toNat = 0 ∨ 0x1F1E6 ≤ (Char.ofNat n).toNat := by
    intro n hn
    by_cases hvalid : n.isValidChar
    · rw [Char.ofNat, dif_pos hvalid]
      exact .inr hn
    · rw [Char.ofNat, dif_neg hvalid]
      exact .inl rfl
  have hfar : (flagSign c).toNat = 0 ∨ 0x1F1E6 ≤ (flagSign c).toNat :=
    hchar _ (Nat.le_add_right 0x1F1E6 _)
  have hne : ∀ d : Char, 0 < d.toNat → d.toNat < 0x1F1E6 → flagSign c ≠ d := by
    rintro d hpos hlt rfl
    omega
  simp [isDrawn, hne ':' (by decide) (by decide), hne '\t' (by decide) (by decide),
    hne '[' (by decide) (by decide), hne '\\' (by decide) (by decide)]

theorem isDrawn_of_flag? {name p : Text} (h : flag? name = some p) :
    ∀ c ∈ p, isDrawn c = true := by
  obtain ⟨code, -, rfl⟩ := Option.map_eq_some_iff.1 h
  intro c hc
  obtain ⟨letter, -, rfl⟩ := List.mem_map.1 hc
  exact isDrawn_flagSign letter

theorem isDrawn_of_pictureOf? {name p : Text} (h : pictureOf? name = some p) :
    ∀ c ∈ p, isDrawn c = true := by
  unfold pictureOf? at h
  split at h
  · rename_i hplain
    obtain rfl := Option.some.inj h
    exact isDrawn_of_plainPictures hplain
  · split at h
    · rename_i htoned
      obtain rfl := Option.some.inj h
      exact isDrawn_of_toned? htoned
    · exact isDrawn_of_flag? h

/-- A picture has no colon, no tab, no opening bracket and no backslash. -/
theorem isDrawn_of_picture? {name p : Text} (h : picture? name = some p) :
    ∀ c ∈ p, isDrawn c = true := by
  have hform : ∀ c ∈ (splitForm name).2, isDrawn c = true := by
    unfold splitForm
    split
    · exact List.forall_mem_nil _
    · rename_i ending form hfind
      have hall : ∀ f ∈ forms, isDrawn f.2 = true := by decide
      exact List.forall_mem_singleton.2 (hall _ (List.mem_of_find?_eq_some hfind))
  obtain ⟨picture, hpicture, rfl⟩ := Option.map_eq_some_iff.1 h
  exact List.forall_mem_append.2 ⟨isDrawn_of_pictureOf? hpicture, hform⟩

/-! ## Names between colons -/

/-- What can stand between two colons. -/
def IsBetween (name : Text) : Prop := ∀ c ∈ name, c ≠ ':' ∧ isBlank c = false

/-- A name between two colons, in front of a text. -/
def named (name rest : Text) : Text := ':' :: (name ++ ':' :: rest)

theorem named?_eq_some_iff {t name : Text} :
    named? t = some name ↔ IsBetween name ∧ ∃ rest, t = name ++ ':' :: rest := by
  have hbetween {u : Text} : (∀ c ∈ u, (c != ':' && !isBlank c) = true) ↔ IsBetween u := by
    simp [IsBetween]
  unfold named?
  dsimp only
  rw [drop_length_takeWhile]
  constructor
  · intro h
    split at h
    · rename_i hcolon
      obtain rfl := Option.some.inj h
      obtain ⟨rest, hrest⟩ := List.head?_eq_some_iff.1 (beq_iff_eq.1 hcolon)
      refine ⟨hbetween.1 fun c hc => List.all_eq_true.1 List.all_takeWhile c hc, rest, ?_⟩
      rw [← hrest, List.takeWhile_append_dropWhile]
    · cases h
  · rintro ⟨hname, rest, rfl⟩
    have hall := hbetween.2 hname
    rw [List.takeWhile_append_of_pos hall, List.dropWhile_append_of_pos hall]
    simp

theorem named?_eq_none_iff {t : Text} :
    named? t = none ↔ ∀ name rest, t = name ++ ':' :: rest → ¬IsBetween name := by
  rw [Option.eq_none_iff_forall_ne_some]
  constructor
  · intro h name rest ht hname
    exact h name (named?_eq_some_iff.2 ⟨hname, rest, ht⟩)
  · intro h name hname
    obtain ⟨hbetween, rest, ht⟩ := named?_eq_some_iff.1 hname
    exact h name rest ht hbetween

theorem picturesAfter_eq_drop (skip : Nat) (t : Text) :
    picturesAfter skip t = withPictures (t.drop skip) :=
  skip_eq_drop (fun _ => rfl) (fun _ _ _ => rfl) skip t

theorem withPictures_cons {c : Char} (h : c ≠ ':') (cs : Text) :
    withPictures (c :: cs) = c :: withPictures cs := if_neg h

theorem withPictures_alone {cs : Text} (h : named? cs = none) :
    withPictures (':' :: cs) = ':' :: withPictures cs := by
  unfold withPictures
  rw [picturesAfter, if_pos rfl, h]

theorem withPictures_named {name : Text} (h : IsBetween name) (rest : Text) :
    withPictures (named name rest) =
      (picture? name).getD (':' :: name ++ [':']) ++ withPictures rest := by
  have hdrop : (name ++ ':' :: rest).drop (name.length + 1) = rest := by
    rw [← List.singleton_append, ← List.append_assoc]
    exact List.drop_left' (by simp)
  unfold withPictures named
  rw [picturesAfter, if_pos rfl, named?_eq_some_iff.2 ⟨h, rest, rfl⟩]
  dsimp only
  rw [picturesAfter_eq_drop, hdrop]
  rfl

/-- A text is read by its colons: each either has no partner, or makes a pair with the next one. -/
theorem colons_induction {motive : Text → Prop} (nil : motive [])
    (char : ∀ c cs, c ≠ ':' → motive cs → motive (c :: cs))
    (alone : ∀ cs, named? cs = none → motive cs → motive (':' :: cs))
    (pair : ∀ name rest, IsBetween name → motive rest → motive (named name rest)) :
    ∀ t, motive t
  | [] => nil
  | c :: cs => by
      by_cases hc : c = ':'
      · subst hc
        cases h : named? cs with
        | none => exact alone cs h (colons_induction nil char alone pair cs)
        | some name =>
          obtain ⟨hname, rest, rfl⟩ := named?_eq_some_iff.1 h
          exact pair name rest hname (colons_induction nil char alone pair rest)
      · exact char c cs hc (colons_induction nil char alone pair cs)
termination_by t => t.length

/-! ## Texts that name pictures -/

/-- A text names a picture between two colons that make a pair. -/
inductive NamesPicture : Text → Prop
  /-- The first pair does. -/
  | here {name p rest : Text} : IsBetween name → picture? name = some p →
      NamesPicture (named name rest)
  /-- There is one behind the first pair. -/
  | behind {name rest : Text} : IsBetween name → NamesPicture rest → NamesPicture (named name rest)
  /-- There is one behind a colon that is alone. -/
  | alone {cs : Text} : named? cs = none → NamesPicture cs → NamesPicture (':' :: cs)
  /-- There is one behind another character. -/
  | char {c : Char} {cs : Text} : c ≠ ':' → NamesPicture cs → NamesPicture (c :: cs)

/-! ## Characters that no picture has -/

section Counting

variable {p : Char → Bool} (hp : ∀ c, isDrawn c = true → p c = false)

theorem countP_named (name rest : Text) :
    (named name rest).countP p = (':' :: name ++ [':']).countP p + rest.countP p := by
  rw [← List.countP_append]
  simp [named]

include hp

theorem countP_picture {name picture : Text} (h : picture? name = some picture) :
    picture.countP p = 0 :=
  List.countP_eq_zero.2 fun c hc => by simp [hp c (isDrawn_of_picture? h c hc)]

/-- A pair keeps what it holds of such characters or loses all of it. -/
theorem countP_pair_le (name : Text) :
    ((picture? name).getD (':' :: name ++ [':'])).countP p ≤ (':' :: name ++ [':']).countP p := by
  cases hpicture : picture? name with
  | some picture =>
    rw [Option.getD_some, countP_picture hp hpicture]
    exact Nat.zero_le _
  | none => exact Nat.le_refl _

/-- Pictures take such characters away and bring none. -/
theorem countP_withPictures_le (t : Text) : (withPictures t).countP p ≤ t.countP p := by
  induction t using colons_induction with
  | nil => exact Nat.le_refl _
  | char c cs hc ih =>
    rw [withPictures_cons hc, List.countP_cons, List.countP_cons]
    exact Nat.add_le_add_right ih _
  | alone cs hnone ih =>
    rw [withPictures_alone hnone, List.countP_cons, List.countP_cons]
    exact Nat.add_le_add_right ih _
  | pair name rest hname ih =>
    rw [withPictures_named hname, countP_named, List.countP_append]
    exact Nat.add_le_add (countP_pair_le hp name) ih

/-- A text that names a picture has fewer of them with it, if colons are among them. -/
theorem countP_withPictures_lt {t : Text} (hcolon : p ':' = true) (h : NamesPicture t) :
    (withPictures t).countP p < t.countP p := by
  induction h with
  | @here name picture rest hname hpicture =>
    have hle := countP_withPictures_le hp rest
    rw [withPictures_named hname, countP_named, hpicture, Option.getD_some, List.countP_append,
      countP_picture hp hpicture, List.cons_append, List.countP_cons_of_pos hcolon]
    omega
  | @behind name rest hname _ ih =>
    have hpair := countP_pair_le hp name
    rw [withPictures_named hname, countP_named, List.countP_append]
    omega
  | alone hnone _ ih =>
    rw [withPictures_alone hnone, List.countP_cons, List.countP_cons]
    exact Nat.add_lt_add_right ih _
  | char hc _ ih =>
    rw [withPictures_cons hc, List.countP_cons, List.countP_cons]
    exact Nat.add_lt_add_right ih _

end Counting

theorem isDrawn_ne_colon (c : Char) (h : isDrawn c = true) : (c == ':') = false :=
  beq_false_of_ne fun hc => absurd (hc ▸ h) (by decide)

/-- Pictures take colons away and bring none. -/
theorem count_withPictures_le (t : Text) : (withPictures t).count ':' ≤ t.count ':' :=
  countP_withPictures_le isDrawn_ne_colon t

/-- A text that names a picture has fewer colons with it. -/
theorem count_withPictures_lt {t : Text} (h : NamesPicture t) :
    (withPictures t).count ':' < t.count ':' :=
  countP_withPictures_lt isDrawn_ne_colon (by decide) h

theorem withPictures_of_not_namesPicture {t : Text} (h : ¬NamesPicture t) : withPictures t = t := by
  induction t using colons_induction with
  | nil => rfl
  | char c cs hc ih => rw [withPictures_cons hc, ih fun hcs => h (.char hc hcs)]
  | alone cs hnone ih => rw [withPictures_alone hnone, ih fun hcs => h (.alone hnone hcs)]
  | pair name rest hname ih =>
    have hnone : picture? name = none :=
      Option.eq_none_iff_forall_ne_some.2 fun p hp => h (.here hname hp)
    rw [withPictures_named hname, hnone, ih fun hrest => h (.behind hname hrest), Option.getD_none]
    simp [named]

/-- A text is shown as it is exactly if it names no picture. -/
theorem withPictures_eq_self_iff {t : Text} : withPictures t = t ↔ ¬NamesPicture t := by
  refine ⟨fun h hnames => ?_, withPictures_of_not_namesPicture⟩
  have hlt := count_withPictures_lt hnames
  rw [h] at hlt
  exact Nat.lt_irrefl _ hlt

/-- So it does exactly if no colon is lost. -/
theorem withPictures_eq_self_of_count {t : Text} (h : (withPictures t).count ':' = t.count ':') :
    withPictures t = t :=
  withPictures_of_not_namesPicture fun hnames => Nat.ne_of_lt (count_withPictures_lt hnames) h

/-- A name stands between two colons. -/
theorem NamesPicture.two_le_count {t : Text} (h : NamesPicture t) : 2 ≤ t.count ':' := by
  induction h with
  | @here name picture rest _ _ =>
    simp only [named, List.count_cons_self, List.count_append]
    omega
  | @behind name rest _ _ ih =>
    simp only [named, List.count_cons_self, List.count_append]
    omega
  | alone _ _ ih => exact Nat.le_trans ih (List.count_le_count_cons)
  | char _ _ ih => exact Nat.le_trans ih (List.count_le_count_cons)

theorem withPictures_of_count_le_one {t : Text} (h : t.count ':' ≤ 1) : withPictures t = t :=
  withPictures_of_not_namesPicture fun hnames =>
    absurd (Nat.le_trans hnames.two_le_count h) (by decide)

/-- No picture has a tab in it. -/
theorem not_mem_tab_withPictures {t : Text} (h : '\t' ∉ t) : '\t' ∉ withPictures t := by
  induction t using colons_induction with
  | nil => exact h
  | char c cs hc ih =>
    rw [List.mem_cons, not_or] at h
    rw [withPictures_cons hc, List.mem_cons, not_or]
    exact ⟨h.1, ih h.2⟩
  | alone cs hnone ih =>
    rw [List.mem_cons, not_or] at h
    rw [withPictures_alone hnone, List.mem_cons, not_or]
    exact ⟨h.1, ih h.2⟩
  | pair name rest hname ih =>
    simp only [named, List.mem_cons, List.mem_append, not_or] at h
    rw [withPictures_named hname, List.mem_append, not_or]
    refine ⟨fun hmem => ?_, ih h.2.2.2⟩
    cases hpicture : picture? name with
    | some p =>
      rw [hpicture] at hmem
      exact absurd (isDrawn_of_picture? hpicture _ hmem) (by decide)
    | none =>
      rw [hpicture] at hmem
      simp [h.2.1] at hmem

/-! ## Texts behind one another -/

theorem named?_append_of_none {t rest : Text} (h : named? t = none) (hrest : named? rest = none) :
    named? (t ++ rest) = none := by
  rw [named?_eq_none_iff] at *
  intro name more hsplit hname
  rcases List.append_eq_append_iff.1 hsplit with ⟨w, rfl, hw⟩ | ⟨w, rfl, hw⟩
  · exact hrest w more hw fun c hc => hname c (List.mem_append_right t hc)
  · cases w with
    | nil => exact hrest [] more hw.symm (List.forall_mem_nil _)
    | cons d w =>
      obtain ⟨rfl, -⟩ := List.cons.inj hw
      exact h name w rfl hname

/-- A text that starts with no name is shown behind another one as it is shown alone. -/
theorem withPictures_append_of_none (t : Text) {rest : Text} (h : named? rest = none) :
    withPictures (t ++ rest) = withPictures t ++ withPictures rest := by
  induction t using colons_induction with
  | nil => rfl
  | char c cs hc ih => rw [List.cons_append, withPictures_cons hc, withPictures_cons hc, ih]; rfl
  | alone cs hnone ih =>
    rw [List.cons_append, withPictures_alone (named?_append_of_none hnone h),
      withPictures_alone hnone, ih]
    rfl
  | pair name more hname ih =>
    have happend : named name more ++ rest = named name (more ++ rest) := by simp [named]
    rw [happend, withPictures_named hname, withPictures_named hname, ih, List.append_assoc]

end CommitCheck.Console
