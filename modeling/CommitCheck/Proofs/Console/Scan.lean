import CommitCheck.Console.Markup
import CommitCheck.Proofs.Text.Pieces

/-!
# Scanning escaped text

Which texts are tags, and what scanning finds in a text that was escaped.

`tagAt?_eq_some_iff` tells a tag apart from its scanner: some backslashes, an opening
bracket, a body without brackets that starts in one of the right ways, and a closing
bracket.  A text is its tags with characters between them (`tags_induction`), and `textPieces`
gives its pieces where each tag is text.

Scanning an escaped text finds these pieces, because every tag has an odd number of
backslashes in front.  What comes after the escaped text matters at its border only: it must
not close a bracket that the text leaves open (`OpensFirst`), and it gets the backslashes at
the end of the text in front.  `scan_escape` says all of this, with the backslash that escaping
may put at the end (`escapedPieces`).
-/

namespace CommitCheck.Console

/-! ## Tags -/

/-- What can stand between the brackets of a tag. -/
def IsTag (body : Text) : Prop :=
  (body.head?.map startsTag).getD false = true ∧ ∀ c ∈ body, c ≠ ']' ∧ c ≠ '['

/-- Whether a character is no bracket. -/
def isInside (c : Char) : Bool := c != ']' && c != '['

theorem isInside_iff {c : Char} : isInside c = true ↔ c ≠ ']' ∧ c ≠ '[' := by
  simp [isInside]

theorem IsTag.ne_nil {body : Text} (h : IsTag body) : body ≠ [] := by
  rintro rfl
  cases h.1

instance (body : Text) : Decidable (IsTag body) :=
  decidable_of_iff (((body.head?.map startsTag).getD false && body.all isInside) = true)
    (by simp [IsTag, isInside])

/-- A tag after some backslashes, in front of a text. -/
def tagged (count : Nat) (body rest : Text) : Text :=
  List.replicate count '\\' ++ '[' :: (body ++ ']' :: rest)

theorem drop_length_takeWhile (p : Char → Bool) (t : Text) :
    t.drop (t.takeWhile p).length = t.dropWhile p := by
  have h : (t.takeWhile p ++ t.dropWhile p).drop (t.takeWhile p).length = t.dropWhile p :=
    List.drop_left
  rwa [List.takeWhile_append_dropWhile] at h

theorem tagBody?_eq_some_iff {t body : Text} :
    tagBody? t = some body ↔ IsTag body ∧ ∃ rest, t = body ++ ']' :: rest := by
  have hdef : tagBody? t =
      if (((t.takeWhile isInside).head?.map startsTag).getD false &&
        (t.dropWhile isInside).head? == some ']') = true
      then some (t.takeWhile isInside) else none := by
    rw [← drop_length_takeWhile]
    rfl
  rw [hdef]
  constructor
  · intro h
    split at h
    · rename_i hcond
      obtain rfl := Option.some.inj h
      rw [Bool.and_eq_true, beq_iff_eq, List.head?_eq_some_iff] at hcond
      obtain ⟨hstart, rest, hrest⟩ := hcond
      refine ⟨⟨hstart, fun c hc => isInside_iff.1 ?_⟩, rest, ?_⟩
      · exact List.all_eq_true.1 List.all_takeWhile c hc
      · rw [← hrest, List.takeWhile_append_dropWhile]
    · cases h
  · rintro ⟨⟨hstart, hinside⟩, rest, rfl⟩
    have htake : (body ++ ']' :: rest).takeWhile isInside = body := by
      rw [List.takeWhile_append_of_pos fun c hc => isInside_iff.2 (hinside c hc)]
      exact List.append_nil body
    have hdrop : (body ++ ']' :: rest).dropWhile isInside = ']' :: rest :=
      List.dropWhile_append_of_pos fun c hc => isInside_iff.2 (hinside c hc)
    rw [htake, hdrop]
    simp [hstart]

/-- A text that starts with a tag after so many backslashes. -/
theorem tagAt?_eq_some_iff {t body : Text} {count : Nat} :
    tagAt? t = some (count, body) ↔
      IsTag body ∧ ∃ rest, t = tagged count body rest := by
  unfold tagAt?
  dsimp only
  rw [drop_length_takeWhile]
  constructor
  · intro h
    split at h
    · rename_i cs hcs
      obtain ⟨body', hbody, heq⟩ := Option.map_eq_some_iff.1 h
      obtain ⟨rfl, rfl⟩ := Prod.mk.inj heq
      obtain ⟨htag, rest, rfl⟩ := tagBody?_eq_some_iff.1 hbody
      refine ⟨htag, rest, ?_⟩
      unfold tagged
      have hslashes : t.takeWhile (· == '\\') =
          List.replicate (t.takeWhile (· == '\\')).length '\\' := by
        refine List.eq_replicate_iff.2 ⟨rfl, fun c hc => ?_⟩
        exact beq_iff_eq.1 (List.all_eq_true.1 List.all_takeWhile c hc)
      rw [← hslashes, ← hcs, List.takeWhile_append_dropWhile]
    · cases h
  · rintro ⟨htag, rest, rfl⟩
    have hall : ∀ c ∈ List.replicate count '\\', (c == '\\') = true := fun c hc =>
      beq_iff_eq.2 (List.eq_of_mem_replicate hc)
    unfold tagged
    rw [List.dropWhile_append_of_pos hall, List.takeWhile_append_of_pos hall]
    simp [tagBody?_eq_some_iff.2 ⟨htag, rest, rfl⟩]

/-- Without an opening bracket there is no tag. -/
theorem tagAt?_of_not_mem {t : Text} (h : '[' ∉ t) : tagAt? t = none := by
  rw [Option.eq_none_iff_forall_ne_some]
  rintro ⟨count, body⟩ htag
  obtain ⟨-, rest, rfl⟩ := tagAt?_eq_some_iff.1 htag
  exact h (by simp [tagged])

/-- A text that starts with neither a backslash nor an opening bracket starts with no tag. -/
theorem tagAt?_cons {c : Char} {cs : Text} (hslash : c ≠ '\\') (hopen : c ≠ '[') :
    tagAt? (c :: cs) = none := by
  rw [Option.eq_none_iff_forall_ne_some]
  rintro ⟨count, body⟩ htag
  obtain ⟨-, rest, hsplit⟩ := tagAt?_eq_some_iff.1 htag
  cases count with
  | zero => exact hopen (List.cons.inj hsplit).1
  | succ count => exact hslash (List.cons.inj hsplit).1

/-- One backslash more or fewer makes no tag. -/
theorem tagAt?_cons_slash_eq_none_iff {cs : Text} :
    tagAt? ('\\' :: cs) = none ↔ tagAt? cs = none := by
  rw [Option.eq_none_iff_forall_ne_some, Option.eq_none_iff_forall_ne_some]
  constructor
  · rintro h ⟨count, body⟩ htag
    obtain ⟨hbody, rest, rfl⟩ := tagAt?_eq_some_iff.1 htag
    exact h (count + 1, body) (tagAt?_eq_some_iff.2 ⟨hbody, rest, rfl⟩)
  · rintro h ⟨count, body⟩ htag
    obtain ⟨hbody, rest, hsplit⟩ := tagAt?_eq_some_iff.1 htag
    cases count with
    | zero => cases (List.cons.inj hsplit).1
    | succ count =>
      exact h (count, body) (tagAt?_eq_some_iff.2 ⟨hbody, rest, (List.cons.inj hsplit).2⟩)

theorem tagAt?_replicate_append {rest : Text} (h : tagAt? rest = none) (k : Nat) :
    tagAt? (List.replicate k '\\' ++ rest) = none := by
  induction k with
  | zero => exact h
  | succ k ih => exact tagAt?_cons_slash_eq_none_iff.2 ih

/-! ## The scanner -/

theorem scanAfter_eq_drop (skip : Nat) (t : Text) :
    scanAfter skip t = scanAfter 0 (t.drop skip) :=
  skip_eq_drop (fun _ => rfl) (fun _ _ _ => rfl) skip t

theorem escapeAfter_eq_drop (skip : Nat) (t : Text) :
    escapeAfter skip t = escapeAfter 0 (t.drop skip) :=
  skip_eq_drop (fun _ => rfl) (fun _ _ _ => rfl) skip t

theorem scanAfter_of_none {c : Char} {cs : Text} (h : tagAt? (c :: cs) = none) :
    scanAfter 0 (c :: cs) = .char c :: scanAfter 0 cs := by
  rw [scanAfter, h]

theorem escapeAfter_of_none {c : Char} {cs : Text} (h : tagAt? (c :: cs) = none) :
    escapeAfter 0 (c :: cs) = c :: escapeAfter 0 cs := by
  rw [escapeAfter, h]

theorem drop_tagged {count : Nat} {body rest cs : Text} {c : Char}
    (h : c :: cs = tagged count body rest) : cs.drop (count + body.length + 1) = rest := by
  have hsplit : tagged count body rest =
      (List.replicate count '\\' ++ '[' :: (body ++ [']'])) ++ rest := by
    simp [tagged]
  have hdrop : (c :: cs).drop (count + body.length + 1 + 1) = rest := by
    rw [h, hsplit]
    exact List.drop_left' (by simp; omega)
  exact hdrop

theorem scan_tagged {count : Nat} {body : Text} (hbody : IsTag body) (rest : Text) :
    scanAfter 0 (tagged count body rest) = piecesOf count body ++ scanAfter 0 rest := by
  have htag : tagAt? (tagged count body rest) = some (count, body) :=
    tagAt?_eq_some_iff.2 ⟨hbody, rest, rfl⟩
  cases ht : tagged count body rest with
  | nil => cases count <;> cases ht
  | cons c cs =>
    rw [ht] at htag
    rw [scanAfter, htag]
    show piecesOf count body ++ scanAfter (count + body.length + 1) cs = _
    rw [scanAfter_eq_drop, drop_tagged ht.symm]

theorem escape_tagged {count : Nat} {body : Text} (hbody : IsTag body) (rest : Text) :
    escapeAfter 0 (tagged count body rest) = tagged (2 * count + 1) body (escapeAfter 0 rest) := by
  have htag : tagAt? (tagged count body rest) = some (count, body) :=
    tagAt?_eq_some_iff.2 ⟨hbody, rest, rfl⟩
  cases ht : tagged count body rest with
  | nil => cases count <;> cases ht
  | cons c cs =>
    rw [ht] at htag
    rw [escapeAfter, htag]
    show List.replicate (2 * count + 1) '\\' ++ '[' :: body ++
      ']' :: escapeAfter (count + body.length + 1) cs = _
    rw [escapeAfter_eq_drop, drop_tagged ht.symm, tagged, List.append_assoc, List.cons_append]

theorem scan_replicate_append {rest : Text} (h : tagAt? rest = none) (k : Nat) :
    scanAfter 0 (List.replicate k '\\' ++ rest) =
      List.replicate k (.char '\\') ++ scanAfter 0 rest := by
  induction k with
  | zero => rfl
  | succ k ih =>
    have hno : tagAt? ('\\' :: (List.replicate k '\\' ++ rest)) = none :=
      tagAt?_replicate_append h (k + 1)
    rw [List.replicate_succ, List.cons_append, scanAfter_of_none hno, ih]
    rfl

/-- A text is read by its tags: each character either starts none, or it starts one, the
backslashes in front of it counted in. -/
theorem tags_induction {motive : Text → Prop} (nil : motive [])
    (char : ∀ c cs, tagAt? (c :: cs) = none → motive cs → motive (c :: cs))
    (tag : ∀ count body rest, IsTag body → motive rest → motive (tagged count body rest)) :
    ∀ t, motive t
  | [] => nil
  | c :: cs => by
      cases htag : tagAt? (c :: cs) with
      | none => exact char c cs htag (tags_induction nil char tag cs)
      | some found =>
        obtain ⟨count, body⟩ := found
        obtain ⟨hbody, rest, ht⟩ := tagAt?_eq_some_iff.1 htag
        have hlength : rest.length < cs.length + 1 := by
          rw [← List.length_cons, ht, tagged]
          simp only [List.length_append, List.length_cons]
          omega
        rw [ht]
        exact tag count body rest hbody (tags_induction nil char tag rest)
termination_by t => t.length

/-! ## Tags as text -/

/-- Whether a piece is none of the tags. -/
def Piece.IsShown : Piece → Prop
  | .tag _ => False
  | _ => True

/-- An odd number of backslashes makes a tag text. -/
theorem isShown_of_mem_piecesOf {count : Nat} {body : Text} {p : Piece}
    (h : p ∈ piecesOf (2 * count + 1) body) : p.IsShown := by
  have hodd : (2 * count + 1) % 2 = 1 := by omega
  unfold piecesOf at h
  rw [if_pos hodd, List.mem_append] at h
  rcases h with h | h
  · split at h
    · cases h
    · obtain rfl := List.mem_singleton.1 h
      trivial
  · obtain rfl := List.mem_singleton.1 h
    trivial

/-- Of the pieces that a tag after some backslashes makes, at most the last one is a tag. -/
theorem isShown_or_tag_of_piecesOf (count : Nat) (body : Text) :
    (∀ p ∈ piecesOf count body, p.IsShown) ∨
      ∃ pieces, (∀ p ∈ pieces, p.IsShown) ∧ piecesOf count body = pieces ++ [.tag body] := by
  by_cases hodd : count % 2 = 1
  · obtain ⟨k, rfl⟩ : ∃ k, count = 2 * k + 1 := ⟨count / 2, by omega⟩
    exact .inl fun p hp => isShown_of_mem_piecesOf hp
  · refine .inr ⟨_, fun p hp => ?_, by rw [piecesOf, if_neg hodd]⟩
    split at hp
    · cases hp
    · obtain rfl := List.mem_singleton.1 hp
      trivial

/-- The pieces of a text, of which the first characters are skipped, where each tag is text. -/
def textPiecesAfter : Nat → Text → List Piece
  | _, [] => []
  | skip + 1, _ :: cs => textPiecesAfter skip cs
  | 0, c :: cs =>
      match tagAt? (c :: cs) with
      | none => .char c :: textPiecesAfter 0 cs
      | some (count, body) =>
          piecesOf (2 * count + 1) body ++ textPiecesAfter (count + body.length + 1) cs
termination_by structural _ t => t

/-- The pieces of a text where each tag is text. -/
def textPieces (t : Text) : List Piece := textPiecesAfter 0 t

theorem textPiecesAfter_eq_drop (skip : Nat) (t : Text) :
    textPiecesAfter skip t = textPieces (t.drop skip) :=
  skip_eq_drop (fun _ => rfl) (fun _ _ _ => rfl) skip t

theorem textPieces_of_none {c : Char} {cs : Text} (h : tagAt? (c :: cs) = none) :
    textPieces (c :: cs) = .char c :: textPieces cs := by
  unfold textPieces
  rw [textPiecesAfter, h]

theorem textPieces_tagged {count : Nat} {body : Text} (hbody : IsTag body) (rest : Text) :
    textPieces (tagged count body rest) = piecesOf (2 * count + 1) body ++ textPieces rest := by
  have htag : tagAt? (tagged count body rest) = some (count, body) :=
    tagAt?_eq_some_iff.2 ⟨hbody, rest, rfl⟩
  cases ht : tagged count body rest with
  | nil => cases count <;> cases ht
  | cons c cs =>
    rw [ht] at htag
    unfold textPieces
    rw [textPiecesAfter, htag]
    show piecesOf (2 * count + 1) body ++ textPiecesAfter (count + body.length + 1) cs = _
    rw [textPiecesAfter_eq_drop, drop_tagged ht.symm, textPieces]

theorem textPieces_replicate (k : Nat) :
    textPieces (List.replicate k '\\') = List.replicate k (.char '\\') := by
  induction k with
  | zero => rfl
  | succ k ih =>
    have hno : tagAt? (List.replicate (k + 1) '\\' ++ []) = none :=
      tagAt?_replicate_append rfl (k + 1)
    rw [List.append_nil, List.replicate_succ] at hno
    rw [List.replicate_succ, textPieces_of_none hno, ih, List.replicate_succ]

/-- The text of a piece. -/
def Piece.text : Piece → Text
  | .char c => [c]
  | .literal t => t
  | .tag _ => []

theorem text_piecesOf (count : Nat) (body : Text) :
    (piecesOf (2 * count + 1) body).flatMap Piece.text = tagged count body [] := by
  have hodd : (2 * count + 1) % 2 = 1 := by omega
  have hhalf : (2 * count + 1) / 2 = count := by omega
  unfold piecesOf
  rw [if_pos hodd, hhalf]
  cases count with
  | zero => simp [Piece.text, tagged]
  | succ count => simp [Piece.text, tagged]

/-- Put together they are the text. -/
theorem text_textPieces (t : Text) : (textPieces t).flatMap Piece.text = t := by
  induction t using tags_induction with
  | nil => rfl
  | char c cs hno ih =>
    rw [textPieces_of_none hno, List.flatMap_cons, ih]
    rfl
  | tag count body rest hbody ih =>
    rw [textPieces_tagged hbody, List.flatMap_append, text_piecesOf, ih]
    simp [tagged]

/-- They are text indeed. -/
theorem isShown_of_mem_textPieces {t : Text} : ∀ p ∈ textPieces t, p.IsShown := by
  induction t using tags_induction with
  | nil => exact List.forall_mem_nil _
  | char c cs hno ih =>
    rw [textPieces_of_none hno, List.forall_mem_cons]
    exact ⟨trivial, ih⟩
  | tag count body rest hbody ih =>
    rw [textPieces_tagged hbody, List.forall_mem_append]
    exact ⟨fun p hp => isShown_of_mem_piecesOf hp, ih⟩

/-! ## Escaped text -/

/-- A text that closes no bracket before it opens one. -/
def OpensFirst (t : Text) : Prop := ∀ inner rest, t = inner ++ ']' :: rest → '[' ∈ inner

theorem opensFirst_nil : OpensFirst [] := by
  intro inner rest h
  cases inner <;> cases h

theorem OpensFirst.cons {c : Char} {t : Text} (hc : c ≠ ']') (h : OpensFirst t) :
    OpensFirst (c :: t) := by
  intro inner rest hsplit
  cases inner with
  | nil => exact absurd (List.cons.inj hsplit).1 hc
  | cons d inner => exact List.mem_cons_of_mem d (h inner rest (List.cons.inj hsplit).2)

theorem opensFirst_open (t : Text) : OpensFirst ('[' :: t) := by
  intro inner rest hsplit
  cases inner with
  | nil => cases hsplit
  | cons d inner =>
    obtain ⟨rfl, -⟩ := List.cons.inj hsplit
    exact List.mem_cons_self

/-- A bracket that is closed before one is opened is closed in the text itself. -/
theorem closes_of_escapeAfter {rest : Text} (hrest : OpensFirst rest) :
    ∀ {inner t more : Text}, '[' ∉ inner → escapeAfter 0 t ++ rest = inner ++ ']' :: more →
      ∃ more, t = inner ++ ']' :: more
  | inner, [], more, hin, h => absurd (hrest inner more h) hin
  | inner, c :: cs, more, hin, h => by
      cases htag : tagAt? (c :: cs) with
      | some found =>
        obtain ⟨count, body⟩ := found
        obtain ⟨hbody, tail, ht⟩ := tagAt?_eq_some_iff.1 htag
        rw [ht, escape_tagged hbody, tagged, List.append_assoc, List.cons_append] at h
        have hslashes : ']' ∉ List.replicate (2 * count + 1) '\\' := fun hmem => by
          cases List.eq_of_mem_replicate hmem
        rcases List.append_eq_append_iff.1 h with ⟨w, rfl, hw⟩ | ⟨w, hslash, hw⟩
        · cases w with
          | nil => cases hw
          | cons d w =>
            obtain ⟨rfl, -⟩ := List.cons.inj hw
            exact absurd (List.mem_append_right _ List.mem_cons_self) hin
        · cases w with
          | nil => cases hw
          | cons d w =>
            obtain ⟨rfl, -⟩ := List.cons.inj hw
            exact absurd (hslash ▸ List.mem_append_right _ List.mem_cons_self) hslashes
      | none =>
        rw [escapeAfter_of_none htag, List.cons_append] at h
        cases inner with
        | nil =>
          obtain ⟨rfl, -⟩ := List.cons.inj h
          exact ⟨cs, rfl⟩
        | cons d inner =>
          obtain ⟨rfl, hcs⟩ := List.cons.inj h
          rw [List.mem_cons, not_or] at hin
          obtain ⟨more, rfl⟩ := closes_of_escapeAfter hrest hin.2 hcs
          exact ⟨more, rfl⟩

/-- So an escaped text opens first if the text does. -/
theorem OpensFirst.escapeAfter {t rest : Text} (ht : OpensFirst t) (hrest : OpensFirst rest) :
    OpensFirst (escapeAfter 0 t ++ rest) := by
  intro inner more h
  by_cases hin : '[' ∈ inner
  · exact hin
  · obtain ⟨tail, hsplit⟩ := closes_of_escapeAfter hrest hin h
    exact ht inner tail hsplit

/-- Escaping makes no tag at the start of a text that has none there, unless the text is all
backslashes and meets a tag behind it. -/
theorem slashes_of_escapeAfter {rest : Text} (hrest : OpensFirst rest) {body : Text}
    (hbody : IsTag body) :
    ∀ {count : Nat} {t more : Text}, tagAt? t = none →
      escapeAfter 0 t ++ rest = tagged count body more → ∃ k, t = List.replicate k '\\'
  | _, [], _, _, _ => ⟨0, rfl⟩
  | 0, c :: cs, more, hno, h => by
      rw [escapeAfter_of_none hno] at h
      obtain ⟨rfl, hcs⟩ := List.cons.inj h
      have hin : '[' ∉ body := fun hmem => (hbody.2 _ hmem).2 rfl
      obtain ⟨tail, rfl⟩ := closes_of_escapeAfter hrest hin hcs
      have htag : tagAt? ('[' :: (body ++ ']' :: tail)) = some (0, body) :=
        tagAt?_eq_some_iff.2 ⟨hbody, tail, rfl⟩
      rw [htag] at hno
      cases hno
  | count + 1, c :: cs, more, hno, h => by
      rw [escapeAfter_of_none hno] at h
      obtain ⟨rfl, hcs⟩ := List.cons.inj h
      have hno' := tagAt?_cons_slash_eq_none_iff.1 hno
      obtain ⟨k, rfl⟩ := slashes_of_escapeAfter hrest hbody hno' hcs
      exact ⟨k + 1, rfl⟩

theorem escapeAfter_replicate (k : Nat) :
    escapeAfter 0 (List.replicate k '\\') = List.replicate k '\\' := by
  induction k with
  | zero => rfl
  | succ k ih =>
    have hno : tagAt? (List.replicate (k + 1) '\\') = none :=
      tagAt?_of_not_mem fun hmem => by cases List.eq_of_mem_replicate hmem
    rw [List.replicate_succ] at hno ⊢
    rw [escapeAfter_of_none hno, ih]

/-- Scanning an escaped text finds the text with its tags as text, and goes on behind it with the
backslashes at its end. -/
theorem scan_escapeAfter {rest : Text} (hrest : OpensFirst rest) (t : Text) :
    ∃ pieces k, textPieces t = pieces ++ List.replicate k (.char '\\') ∧
      scanAfter 0 (escapeAfter 0 t ++ rest) =
        pieces ++ scanAfter 0 (List.replicate k '\\' ++ rest) := by
  induction t using tags_induction with
  | nil => exact ⟨[], 0, rfl, rfl⟩
  | tag count body tail hbody ih =>
    obtain ⟨pieces, k, htext, hscan⟩ := ih
    have happend : tagged (2 * count + 1) body (escapeAfter 0 tail) ++ rest =
        tagged (2 * count + 1) body (escapeAfter 0 tail ++ rest) := by
      simp [tagged]
    refine ⟨piecesOf (2 * count + 1) body ++ pieces, k, ?_, ?_⟩
    · rw [textPieces_tagged hbody, htext, List.append_assoc]
    · rw [escape_tagged hbody, happend, scan_tagged hbody, hscan, List.append_assoc]
  | char c cs htag ih =>
    by_cases hslashes : ∃ k, c :: cs = List.replicate k '\\'
    · obtain ⟨k, hk⟩ := hslashes
      rw [hk, escapeAfter_replicate]
      exact ⟨[], k, textPieces_replicate k, rfl⟩
    · have hno : tagAt? (c :: (escapeAfter 0 cs ++ rest)) = none := by
        rw [Option.eq_none_iff_forall_ne_some]
        rintro ⟨count, body⟩ hfound
        obtain ⟨hbody, more, hmore⟩ := tagAt?_eq_some_iff.1 hfound
        rw [← List.cons_append, ← escapeAfter_of_none htag] at hmore
        exact hslashes (slashes_of_escapeAfter hrest hbody htag hmore)
      obtain ⟨pieces, k, htext, hscan⟩ := ih
      refine ⟨.char c :: pieces, k, ?_, ?_⟩
      · rw [textPieces_of_none htag, htext, List.cons_append]
      · rw [escapeAfter_of_none htag, List.cons_append, scanAfter_of_none hno, hscan]
        rfl

/-! ## The backslash at the end -/

/-- The end of a text is told by its last two characters. -/
theorem endsInBackslash_congr {t u : Text} (h : t.reverse.take 2 = u.reverse.take 2) :
    endsInBackslash t = endsInBackslash u := by
  have htwo : ∀ v : Text, endsInBackslash v = endsInBackslash (v.reverse.take 2).reverse := by
    intro v
    unfold endsInBackslash
    rw [List.reverse_reverse]
    match v.reverse with
    | [] => rfl
    | [a] => rfl
    | a :: b :: l => by_cases ha : a = '\\' <;> by_cases hb : b = '\\' <;> simp [ha, hb]
  rw [htwo t, htwo u, h]

theorem take_append_congr {l l' m m' : Text} {n : Nat} (hl : l.take n = l'.take n)
    (hm : m.take n = m'.take n) : (l ++ m).take n = (l' ++ m').take n := by
  have htake : ∀ u v : Text, (u ++ v).take n = (u.take n ++ v.take n).take n := by
    intro u v
    have hrest : min (n - min n u.length) n = n - u.length := by omega
    rw [List.take_append, List.take_append, List.take_take, List.take_take, Nat.min_self,
      List.length_take, hrest]
  rw [htake l, htake l', hl, hm]

/-- Escaping leaves the last two characters as they are. -/
theorem take_reverse_escapeAfter (t : Text) :
    (escapeAfter 0 t).reverse.take 2 = t.reverse.take 2 := by
  induction t using tags_induction with
  | nil => rfl
  | char c cs hno ih =>
    rw [escapeAfter_of_none hno, List.reverse_cons, List.reverse_cons]
    exact take_append_congr ih rfl
  | tag count body rest hbody ih =>
    have hreverse : ∀ n u, (tagged n body u).reverse =
        u.reverse ++ (']' :: body.reverse ++ '[' :: List.replicate n '\\') := by
      simp [tagged]
    rw [escape_tagged hbody, hreverse, hreverse]
    -- there is a character between the brackets, so the backslashes are not among the last two
    obtain ⟨d, ds, hlast⟩ := List.exists_cons_of_ne_nil (List.reverse_ne_nil_iff.2 hbody.ne_nil)
    refine take_append_congr ih ?_
    rw [hlast]
    rfl

theorem endsInBackslash_escapeAfter (t : Text) :
    endsInBackslash (escapeAfter 0 t) = endsInBackslash t :=
  endsInBackslash_congr (take_reverse_escapeAfter t)

/-- The pieces of an escaped text: those of the text with its tags as text, and a backslash if the
text ends in one. -/
def escapedPieces (t : Text) : List Piece :=
  textPieces t ++ if endsInBackslash t then [.char '\\'] else []

theorem isShown_of_mem_escapedPieces {t : Text} : ∀ p ∈ escapedPieces t, p.IsShown := by
  refine List.forall_mem_append.2 ⟨isShown_of_mem_textPieces, fun p hp => ?_⟩
  split at hp
  · obtain rfl := List.mem_singleton.1 hp
    trivial
  · cases hp

/-- Scanning an escaped text, with the backslash that escaping may put at the end. -/
theorem scan_escape {rest : Text} (hrest : OpensFirst rest) (t : Text) :
    ∃ pieces k, escapedPieces t = pieces ++ List.replicate k (.char '\\') ∧
      scanAfter 0 (escape t ++ rest) =
        pieces ++ scanAfter 0 (List.replicate k '\\' ++ rest) := by
  unfold escape escapedPieces
  dsimp only
  rw [endsInBackslash_escapeAfter]
  split
  · obtain ⟨pieces, k, htext, hscan⟩ :=
      scan_escapeAfter (hrest.cons (c := '\\') (by decide)) t
    refine ⟨pieces, k + 1, ?_, ?_⟩
    · rw [htext, List.append_assoc, List.replicate_succ']
    · rw [List.append_assoc, List.singleton_append, hscan, List.replicate_succ', List.append_assoc,
        List.singleton_append]
  · rw [List.append_nil]
    exact scan_escapeAfter hrest t

theorem OpensFirst.escape {t rest : Text} (ht : OpensFirst t) (hrest : OpensFirst rest) :
    OpensFirst (escape t ++ rest) := by
  unfold Console.escape
  dsimp only
  split
  · rw [List.append_assoc]
    exact ht.escapeAfter (hrest.cons (by decide))
  · exact ht.escapeAfter hrest

/-- The pieces of an escaped text in front of a text that starts with no tag. -/
theorem scan_escape_of_none {rest : Text} (hrest : OpensFirst rest) (hno : tagAt? rest = none)
    (t : Text) : scanAfter 0 (escape t ++ rest) = escapedPieces t ++ scanAfter 0 rest := by
  obtain ⟨pieces, k, htext, hscan⟩ := scan_escape hrest t
  rw [hscan, scan_replicate_append hno, htext, List.append_assoc]

/-- The same for a text in brackets, whatever comes behind it. -/
theorem scan_escape_bracket {rest : Text} (hrest : OpensFirst rest) (t : Text) :
    scanAfter 0 (escape (t ++ [']']) ++ rest) = escapedPieces (t ++ [']']) ++ scanAfter 0 rest := by
  obtain ⟨pieces, k, htext, hscan⟩ := scan_escape hrest (t ++ [']'])
  have hends : endsInBackslash (t ++ [']']) = false := by simp [endsInBackslash]
  cases k with
  | zero =>
    rw [hscan, htext, List.append_assoc]
    rfl
  | succ k =>
    have hlast := congrArg List.getLast? (text_textPieces (t ++ [']']))
    rw [escapedPieces, hends, if_neg Bool.false_ne_true, List.append_nil] at htext
    rw [htext, List.replicate_succ', ← List.append_assoc, List.flatMap_append] at hlast
    simp [Piece.text] at hlast

end CommitCheck.Console
