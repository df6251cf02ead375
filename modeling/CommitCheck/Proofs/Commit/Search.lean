import CommitCheck.Proofs.Commit.Reference

/-!
# Where references are found

A text is *cut* at a reference into what is before the mark, the number or the word for no issue,
and what is after that (`Cut`).  There can be many cuts: one for each reference in the text, and
several for a number of several digits, since a cut may fall between two of them.  The first cut
is the one with the least before it, and with the whole number if it falls on a number
(`IsFirstCut`).

A body cites what its first cut holds (`cites_iff_isFirstCut`), and it cites something as soon as
it can be cut anywhere (`exists_cites_iff`).  So a reference is found in a message exactly where
there is one, and what is found is the first cut (`first?_finds_first_cut`).
-/

namespace CommitCheck.Reference

variable {body header before id rest : Text} {m : Message} {r : Reference}

/-! ## Cuts -/

/-- A text cut at a reference: what is before the mark, a number or the word for no issue, and
what is after that. -/
structure Cut (t before id rest : Text) : Prop where
  /-- The parts make up the text. -/
  parts : t = before ++ Header.issueMark ++ id ++ rest
  /-- What follows the mark is a number or the word for no issue. -/
  isId : IsNumber id ∨ id = nil

/-- The cut that has the least before it, and no digit after the number if it has a number. -/
structure IsFirstCut (t before id rest : Text) : Prop extends Cut t before id rest where
  /-- No cut has less before it. -/
  leftmost : ∀ {before' id' rest'}, Cut t before' id' rest' → before.length ≤ before'.length
  /-- A number is whole. -/
  whole : IsNumber id → EndsNumber rest

theorem Cut.eq_append (h : Cut body before id rest) :
    body = before ++ (Header.issueMark ++ (id ++ rest)) := by
  rw [h.parts, List.append_assoc, List.append_assoc]

/-- Where a text is cut, a reference stands.  Its number may go on behind the cut. -/
theorem Cut.exists_stands (h : Cut body before id rest) :
    ∃ id', Stands (Header.issueMark ++ (id ++ rest)) id' := by
  rcases h.isId with hn | rfl
  · have hne : (id ++ rest).takeWhile Char.isDigit ≠ [] := by
      rw [List.takeWhile_append_of_pos hn.2]
      exact List.append_ne_nil_of_left_ne_nil hn.1 _
    refine ⟨(id ++ rest).takeWhile Char.isDigit, ?_⟩
    have hs := Stands.number (isNumber_takeWhile hne) (endsNumber_dropWhile (id ++ rest))
    rwa [List.takeWhile_append_dropWhile] at hs
  · exact ⟨nil, .nil rest⟩

/-- Where a reference stands, the text is cut, and the number is whole. -/
theorem Stands.exists_cut {stop : Text} (h : Stands stop id) (before : Text) :
    ∃ rest, stop = Header.issueMark ++ (id ++ rest) ∧ Cut (before ++ stop) before id rest ∧
      (IsNumber id → EndsNumber rest) := by
  cases h with
  | @number _ rest hn hr =>
    refine ⟨rest, rfl, ⟨?_, .inl hn⟩, fun _ => hr⟩
    rw [List.append_assoc, List.append_assoc]
  | nil rest =>
    refine ⟨rest, rfl, ⟨?_, .inr rfl⟩, fun h => absurd h not_isNumber_nil⟩
    rw [List.append_assoc, List.append_assoc]

/-- A whole cut leaves a text at whose start its reference stands. -/
theorem IsFirstCut.stands (h : IsFirstCut body before id rest) :
    Stands (Header.issueMark ++ (id ++ rest)) id := by
  rcases h.isId with hn | rfl
  · exact .number hn (h.whole hn)
  · exact .nil rest

/-- A body cites what its first cut holds. -/
theorem cites_iff_isFirstCut : Cites body id ↔ ∃ before rest, IsFirstCut body before id rest := by
  constructor
  · rintro ⟨before, stop, rfl, hs, hfirst⟩
    obtain ⟨rest, rfl, hcut, hwhole⟩ := hs.exists_cut before
    refine ⟨before, rest, hcut, fun {before' id' rest'} hcut' => ?_, hwhole⟩
    obtain ⟨id'', hs'⟩ := hcut'.exists_stands
    exact Nat.le_of_not_lt fun hlt => hfirst before' _ id'' hcut'.eq_append hlt hs'
  · rintro ⟨before, rest, hcut⟩
    refine ⟨before, _, hcut.eq_append, hcut.stands, ?_⟩
    rintro start stop id' rfl hlt hs
    obtain ⟨rest', -, hcut', -⟩ := hs.exists_cut start
    exact Nat.not_lt_of_le (hcut.leftmost hcut') hlt

/-- A body cites something if it can be cut anywhere. -/
theorem exists_cites_iff : (∃ id, Cites body id) ↔ ∃ before id rest, Cut body before id rest := by
  constructor
  · rintro ⟨id, hcites⟩
    obtain ⟨before, rest, hcut⟩ := cites_iff_isFirstCut.1 hcites
    exact ⟨before, id, rest, hcut.toCut⟩
  · rintro ⟨before, id, rest, hcut⟩
    obtain hcites | hnothing := cites_or_citesNothing body
    · exact hcites
    · obtain ⟨id', hs⟩ := hcut.exists_stands
      exact absurd hs (hnothing before _ id' hcut.eq_append)

/-! ## What is found -/

theorem find?_header_eq_some_iff :
    find? m .header = some r ↔ ∃ n, Names m.header n ∧ r = ⟨.header, n⟩ := by
  simp only [find?, Option.map_eq_some_iff, inHeader?_eq_some_iff]
  exact exists_congr fun n => and_congr_right fun _ => eq_comm

theorem find?_body_eq_some_iff :
    find? m .body = some r ↔ ∃ body id, m.body = some body ∧ Cites body id ∧ r = ⟨.body, id⟩ := by
  simp only [find?, Option.map_eq_some_iff, Option.bind_eq_some_iff, inBody?_eq_some_iff]
  constructor
  · rintro ⟨id, ⟨body, hbody, hcites⟩, rfl⟩
    exact ⟨body, id, hbody, hcites, rfl⟩
  · rintro ⟨body, id, hbody, hcites, rfl⟩
    exact ⟨id, ⟨body, hbody, hcites⟩, rfl⟩

/-- What is found is a number or the word for no issue, and a number if it is in the header. -/
theorem isNumber_or_nil_of_find? {place : Place} (h : find? m place = some r) :
    (r.id = nil ∨ IsNumber r.id) ∧ (r.place = .header → IsNumber r.id) := by
  cases place with
  | header =>
    obtain ⟨n, hnames, rfl⟩ := find?_header_eq_some_iff.1 h
    exact ⟨.inr hnames.1, fun _ => hnames.1⟩
  | body =>
    obtain ⟨body, id, -, hcites, rfl⟩ := find?_body_eq_some_iff.1 h
    exact ⟨hcites.eq_nil_or_isNumber, nofun⟩

theorem isNil_eq_false (h : IsNumber r.id) : r.isNil = false :=
  beq_false_of_ne fun hnil => not_isNumber_nil (hnil ▸ h)

/-- References are found exactly where there are some, and the first one counts.

A header holds a reference if it is the mark, a number, a colon and any text.  A body holds one if
it can be cut at one, and what is found is the first cut, with the whole number.  Of several parts
of a message, in any order, the first that holds a reference decides, and nothing is found only if
none of them holds one.  What is found is always a number or the word for no issue, and in a
header it is a number. -/
theorem first?_finds_first_cut (m : Message) (places : List Place) :
    (∀ r, find? m .header = some r ↔
      ∃ n rest, IsNumber n ∧ m.header = Header.issueMark ++ n ++ ':' :: rest ∧
        r = ⟨.header, n⟩) ∧
    ((∃ r, find? m .body = some r) ↔
      ∃ body, m.body = some body ∧ ∃ before id rest, Cut body before id rest) ∧
    (∀ r, find? m .body = some r ↔
      ∃ body before id rest, m.body = some body ∧ IsFirstCut body before id rest ∧
        r = ⟨.body, id⟩) ∧
    (∀ r, first? m places = some r ↔
      ∃ earlier place later, places = earlier ++ place :: later ∧ find? m place = some r ∧
        ∀ p ∈ earlier, find? m p = none) ∧
    (first? m places = none ↔ ∀ place ∈ places, find? m place = none) ∧
    ∀ r, first? m places = some r →
      (r.id = nil ∨ IsNumber r.id) ∧ (r.place = .header → IsNumber r.id ∧ r.isNil = false) := by
  refine ⟨fun r => ?_, ?_, fun r => ?_, fun r => List.findSome?_eq_some_iff,
    List.findSome?_eq_none_iff, fun r hr => ?_⟩
  · rw [find?_header_eq_some_iff]
    constructor
    · rintro ⟨n, ⟨hn, rest, hheader⟩, hr⟩
      exact ⟨n, rest, hn, hheader, hr⟩
    · rintro ⟨n, rest, hn, hheader, hr⟩
      exact ⟨n, ⟨hn, rest, hheader⟩, hr⟩
  · simp only [← exists_cites_iff, find?_body_eq_some_iff]
    constructor
    · rintro ⟨r, body, id, hbody, hcites, -⟩
      exact ⟨body, hbody, id, hcites⟩
    · rintro ⟨body, hbody, id, hcites⟩
      exact ⟨⟨.body, id⟩, body, id, hbody, hcites, rfl⟩
  · simp only [find?_body_eq_some_iff, cites_iff_isFirstCut]
    constructor
    · rintro ⟨body, id, hbody, ⟨before, rest, hcut⟩, hr⟩
      exact ⟨body, before, id, rest, hbody, hcut, hr⟩
    · rintro ⟨body, before, id, rest, hbody, hcut, hr⟩
      exact ⟨body, id, hbody, ⟨before, rest, hcut⟩, hr⟩
  · obtain ⟨place, -, hfound⟩ := List.exists_of_findSome?_eq_some hr
    obtain ⟨hid, hheader⟩ := isNumber_or_nil_of_find? hfound
    exact ⟨hid, fun hplace => ⟨hheader hplace, isNil_eq_false (hheader hplace)⟩⟩

example : first? ⟨"fix: x", some "Issue Issue #x Issue #5"⟩ [.body, .header] =
    some ⟨.body, "5"⟩ := by decide
example : first? ⟨"Issue #7: x", some "Issue #8"⟩ [.body, .header] = some ⟨.body, "8"⟩ := by decide

end CommitCheck.Reference
