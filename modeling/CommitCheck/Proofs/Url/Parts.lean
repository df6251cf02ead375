import CommitCheck.Proofs.Text.Blank
import CommitCheck.Proofs.Text.Pieces
import CommitCheck.Url.Basic

/-!
# The parts of a longer text

What a slash and more at its end does to the parts of a text.  Scheme and authority stay as they
are (`splitScheme_append_slash`, `authority_append_slash`), as long as the text does not end in a
slash itself: then what follows could begin an authority.  Slashes at the end of a text say
nothing about either (`authority_dropTrail`).

Where there is an authority and neither query nor fragment, the path is longer by just what was
added (`ofText_dropTrail_append`).
-/

namespace CommitCheck.Url

open Parts (ofText)

variable {t more : Text}

/-! ## The scheme -/

/-- A slash ends a scheme, so what follows it says nothing about the scheme. -/
theorem splitScheme_append_slash (t more : Text) :
    splitScheme (t ++ '/' :: more) = ((splitScheme t).1, (splitScheme t).2 ++ '/' :: more) := by
  have hname : (t ++ '/' :: more).takeWhile isSchemeChar = t.takeWhile isSchemeChar :=
    takeWhile_append_cons (by decide) t more
  have hdrop : (t ++ '/' :: more).drop (t.takeWhile isSchemeChar).length =
      t.drop (t.takeWhile isSchemeChar).length ++ '/' :: more :=
    List.drop_append_of_le_length (List.takeWhile_prefix isSchemeChar).length_le
  unfold splitScheme
  dsimp only
  rw [hname, hdrop]
  cases hrest : t.drop (t.takeWhile isSchemeChar).length with
  | nil => rfl
  | cons d ds =>
    by_cases hd : d = ':'
    · subst hd
      cases t.takeWhile isSchemeChar with
      | nil => rfl
      | cons c cs =>
        simp only [List.cons_append]
        split <;> rfl
    · simp [hd]

theorem splitScheme_suffix (t : Text) : (splitScheme t).2 <:+ t := by
  have hdrop {rest : Text} (h : t.drop (t.takeWhile isSchemeChar).length = ':' :: rest) :
      rest <:+ t :=
    (List.suffix_cons ':' rest).trans (h ▸ List.drop_suffix _ t)
  unfold splitScheme
  dsimp only
  split
  · exact hdrop ‹_›
  · split
    · exact hdrop ‹_›
    · exact List.suffix_refl t
  · exact List.suffix_refl t

/-! ## The authority -/

/-- Without two slashes at its start a text has no authority. -/
theorem splitAuthority_of_not (h : ∀ cs, t ≠ '/' :: '/' :: cs) : (splitAuthority t).1 = [] := by
  unfold splitAuthority
  split
  · exact absurd rfl (h _)
  · rfl

/-- A slash ends an authority. -/
theorem splitAuthority_slashes (cs more : Text) :
    splitAuthority ('/' :: '/' :: cs ++ '/' :: more) =
      ((splitAuthority ('/' :: '/' :: cs)).1,
        (splitAuthority ('/' :: '/' :: cs)).2 ++ '/' :: more) :=
  Prod.ext (takeWhile_append_cons (by decide) cs more) (dropWhile_append_cons (by decide) cs more)

theorem splitAuthority_append_slash {r : Text} (hr : r ≠ ['/'])
    (hmore : (splitAuthority ('/' :: more)).1 = []) :
    (splitAuthority (r ++ '/' :: more)).1 = (splitAuthority r).1 := by
  by_cases hslashes : ∃ cs, r = '/' :: '/' :: cs
  · obtain ⟨cs, rfl⟩ := hslashes
    rw [splitAuthority_slashes]
  · have hnot : ∀ cs, r ≠ '/' :: '/' :: cs := fun cs h => hslashes ⟨cs, h⟩
    rw [splitAuthority_of_not hnot]
    match r with
    | [] => exact hmore
    | [c] =>
      refine splitAuthority_of_not fun cs h => hr ?_
      rw [(List.cons.inj h).1]
    | c :: d :: ds =>
      refine splitAuthority_of_not fun cs h => ?_
      simp only [List.cons_append, List.cons.injEq] at h
      exact hnot ds (by rw [h.1, h.2.1])

theorem scheme_ofText (t : Text) : (ofText t).scheme = (splitScheme t).1 := rfl

theorem authority_ofText (t : Text) :
    (ofText t).authority = (splitAuthority (splitScheme t).2).1 := rfl

/-- What stands behind a text that does not end in a slash says nothing about its authority,
unless it begins one. -/
theorem authority_append_slash (hends : t.getLast? ≠ some '/')
    (hmore : (splitAuthority ('/' :: more)).1 = []) :
    (ofText (t ++ '/' :: more)).authority = (ofText t).authority := by
  rw [authority_ofText, authority_ofText, splitScheme_append_slash]
  refine splitAuthority_append_slash (fun hslash => hends ?_) hmore
  obtain ⟨front, hfront⟩ := splitScheme_suffix t
  rw [← hfront, hslash, List.getLast?_append, List.getLast?_singleton, Option.some_or]

/-- A text is what is left of it without the slashes at its end, or that with a slash and only
slashes behind it. -/
theorem dropTrail_or_append (t : Text) :
    t = dropTrail (· == '/') t ∨
      ∃ more, t = dropTrail (· == '/') t ++ '/' :: more ∧ ∀ c ∈ more, c = '/' := by
  obtain ⟨r, hr, hall⟩ := dropTrail_append (· == '/') t
  have hslash : ∀ c ∈ r, c = '/' := by simpa using hall
  cases r with
  | nil => exact .inl (by rwa [List.append_nil] at hr)
  | cons c more =>
    obtain ⟨rfl, hmore⟩ := List.forall_mem_cons.1 hslash
    exact .inr ⟨more, hr, hmore⟩

theorem getLast?_dropTrail (t : Text) : (dropTrail (· == '/') t).getLast? ≠ some '/' := by
  intro h
  cases dropTrail_getLast? h

/-- A path that starts with a slash starts with one when more is put behind it. -/
theorem head?_dropTrail_append (h : t = [] ∨ t.head? = some '/') (more : Text) :
    (dropTrail (· == '/') t ++ '/' :: more).head? = some '/' := by
  obtain ⟨r, hr⟩ := dropTrail_prefix_self (· == '/') t
  cases hd : dropTrail (· == '/') t with
  | nil => rfl
  | cons d ds =>
    rw [hd] at hr
    subst hr
    exact h.resolve_left (List.cons_ne_nil d _)

/-- Slashes begin no authority but an empty one. -/
theorem authority_of_slashes (h : ∀ c ∈ more, c = '/') : (splitAuthority ('/' :: more)).1 = [] := by
  cases more with
  | nil => rfl
  | cons c cs =>
    obtain ⟨rfl, hcs⟩ := List.forall_mem_cons.1 h
    cases cs with
    | nil => rfl
    | cons d ds =>
      obtain rfl := hcs d List.mem_cons_self
      rfl

/-- Slashes at the end of a text say nothing about its scheme. -/
theorem scheme_dropTrail (t : Text) :
    (ofText (dropTrail (· == '/') t)).scheme = (ofText t).scheme := by
  obtain h | ⟨more, h, -⟩ := dropTrail_or_append t
  · rw [← h]
  · conv_rhs => rw [h, scheme_ofText, splitScheme_append_slash]
    rfl

/-- Slashes at the end of a text say nothing about its authority. -/
theorem authority_dropTrail (t : Text) :
    (ofText (dropTrail (· == '/') t)).authority = (ofText t).authority := by
  obtain h | ⟨more, h, hmore⟩ := dropTrail_or_append t
  · rw [← h]
  · conv_rhs =>
      rw [h, authority_append_slash (getLast?_dropTrail t) (authority_of_slashes hmore)]

/-! ## Path, query and fragment -/

/-- What follows the authority of a text. -/
def behindAuthority (t : Text) : Text := (splitAuthority (splitScheme t).2).2

theorem splitMark_of_not_mem {mark : Char} (h : mark ∉ t) : splitMark mark t = (t, none) := by
  rw [splitMark, cutAt?_eq_none_iff.2 h]

theorem not_mem_of_splitMark {mark : Char} (h : (splitMark mark t).2 = none) : mark ∉ t := by
  rw [← cutAt?_eq_none_iff]
  unfold splitMark at h
  split at h
  · assumption
  · cases h

/-- Without query and fragment all that follows the authority is the path. -/
theorem ofText_of_not_mem (hfragment : '#' ∉ behindAuthority t) (hquery : '?' ∉ behindAuthority t) :
    ofText t = ⟨(ofText t).scheme, (ofText t).authority, behindAuthority t, none, none⟩ := by
  have hparts : ofText t = ⟨(ofText t).scheme, (ofText t).authority,
      (splitMark '?' (splitMark '#' (behindAuthority t)).1).1,
      (splitMark '?' (splitMark '#' (behindAuthority t)).1).2,
      (splitMark '#' (behindAuthority t)).2⟩ := rfl
  rw [splitMark_of_not_mem hfragment, splitMark_of_not_mem hquery] at hparts
  exact hparts

/-- A text without query and fragment has neither of their marks behind its authority. -/
theorem not_mem_behindAuthority (hquery : (ofText t).query = none)
    (hfragment : (ofText t).fragment = none) :
    '#' ∉ behindAuthority t ∧ '?' ∉ behindAuthority t := by
  have hmark : '#' ∉ behindAuthority t := not_mem_of_splitMark hfragment
  refine ⟨hmark, not_mem_of_splitMark ?_⟩
  change (splitMark '?' (splitMark '#' (behindAuthority t)).1).2 = none at hquery
  rwa [splitMark_of_not_mem hmark] at hquery

/-- What stands behind a text with an authority stands behind its path. -/
theorem behindAuthority_append_slash (hauthority : (ofText t).authority ≠ []) (more : Text) :
    behindAuthority (t ++ '/' :: more) = behindAuthority t ++ '/' :: more := by
  by_cases hslashes : ∃ cs, (splitScheme t).2 = '/' :: '/' :: cs
  · obtain ⟨cs, hcs⟩ := hslashes
    unfold behindAuthority
    rw [splitScheme_append_slash, hcs, splitAuthority_slashes]
  · exact absurd (splitAuthority_of_not fun cs h => hslashes ⟨cs, h⟩) hauthority

theorem behindAuthority_suffix (t : Text) : behindAuthority t <:+ t := by
  refine List.IsSuffix.trans ?_ (splitScheme_suffix t)
  unfold behindAuthority splitAuthority
  split
  · rename_i r cs hr
    rw [hr]
    exact (List.dropWhile_suffix _).trans
      ((List.suffix_cons '/' cs).trans (List.suffix_cons '/' ('/' :: cs)))
  · exact List.suffix_refl _

/-- Slashes at the end of a text with an authority are slashes at the end of its path. -/
theorem behindAuthority_dropTrail (hauthority : (ofText t).authority ≠ []) :
    behindAuthority (dropTrail (· == '/') t) = dropTrail (· == '/') (behindAuthority t) := by
  have hends : ∀ c, (behindAuthority (dropTrail (· == '/') t)).getLast? = some c →
      (c == '/') = false := by
    intro c hc
    obtain ⟨front, hfront⟩ := behindAuthority_suffix (dropTrail (· == '/') t)
    refine dropTrail_getLast? (p := (· == '/')) (t := t) ?_
    rw [← hfront, List.getLast?_append, hc, Option.some_or]
  rw [← authority_dropTrail] at hauthority
  obtain h | ⟨more, h, hmore⟩ := dropTrail_or_append t
  · rw [← h] at hends ⊢
    exact (dropTrail_eq_self hends).symm
  · have hall : ('/' :: more).all (· == '/') = true := by simpa using hmore
    conv_rhs => rw [h, behindAuthority_append_slash hauthority, dropTrail_append_of_all hall]
    exact (dropTrail_eq_self hends).symm

/-- What is put behind a text with an authority and neither query nor fragment, in place of the
slashes at its end, is put behind its path. -/
theorem ofText_dropTrail_append (more : Text) (hauthority : (ofText t).authority ≠ [])
    (hquery : (ofText t).query = none) (hfragment : (ofText t).fragment = none)
    (hbegins : (splitAuthority ('/' :: more)).1 = []) (hmore : '#' ∉ more ∧ '?' ∉ more) :
    ofText (dropTrail (· == '/') t ++ '/' :: more) =
      { ofText t with path := dropTrail (· == '/') (ofText t).path ++ '/' :: more } := by
  obtain ⟨hsign, hmark⟩ := not_mem_behindAuthority hquery hfragment
  have hpath : (ofText t).path = behindAuthority t :=
    congrArg Parts.path (ofText_of_not_mem hsign hmark)
  have hscheme : (ofText (dropTrail (· == '/') t ++ '/' :: more)).scheme = (ofText t).scheme :=
    (congrArg Prod.fst (splitScheme_append_slash _ more)).trans (scheme_dropTrail t)
  have hbehind : behindAuthority (dropTrail (· == '/') t ++ '/' :: more) =
      dropTrail (· == '/') (behindAuthority t) ++ '/' :: more := by
    rw [behindAuthority_append_slash (by rwa [authority_dropTrail]),
      behindAuthority_dropTrail hauthority]
  have hplain {c : Char} (hc : c ≠ '/') (ht : c ∉ behindAuthority t) (hc' : c ∉ more) :
      c ∉ behindAuthority (dropTrail (· == '/') t ++ '/' :: more) := by
    rw [hbehind, List.mem_append, List.mem_cons, not_or, not_or]
    exact ⟨fun hmem => ht ((dropTrail_prefix_self _ _).subset hmem), hc, hc'⟩
  rw [ofText_of_not_mem (hplain (by decide) hsign hmore.1) (hplain (by decide) hmark hmore.2),
    hbehind, authority_append_slash (getLast?_dropTrail t) hbegins, authority_dropTrail, hscheme]
  dsimp only
  rw [hpath, hquery, hfragment]

end CommitCheck.Url
