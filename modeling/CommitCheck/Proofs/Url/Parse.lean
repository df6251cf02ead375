import CommitCheck.Proofs.Run
import CommitCheck.Proofs.Url.Parts

/-!
# Addresses that are read

What is read of a text that is an address: each part of the address is made of one part of the
text (`ofParts_eq_ok_iff`).  So the host of an address is told by the authority of its text alone
(`host_of_parse`), and an address with another path is read of the same text with another path
(`ofParts_with_path`).
-/

namespace CommitCheck.Url

open Parts (ofText)

variable {t : Text} {u : Url} {p : Parts}

theorem textFault?_eq_none_iff :
    textFault? t = none ↔ t.length ≤ lengthLimit ∧ ∀ c ∈ t, isControl c = false := by
  unfold textFault?
  split
  · rename_i hlong
    simp [Nat.not_le.2 hlong]
  · rename_i hshort
    simp [Nat.not_lt.1 hshort]

/-- A text is read if its characters may stand in an address and its parts make one. -/
theorem parse_eq_ok_iff :
    parse t = .ok u ↔ textFault? t = none ∧ ofParts (ofText t) none = .ok u := by
  unfold parse
  cases textFault? t <;> simp

/-- Each part of an address is made of one part of its text. -/
theorem ofParts_eq_ok_iff : ofParts p none = .ok u ↔
    ∃ host port, normalHost (splitHost p.authority).2.1 = .ok host ∧
      normalPort p.scheme (splitHost p.authority).2.2 = .ok port ∧
      pathFault? (!(lowercase p.scheme).isEmpty)
        (!(quote inUser (splitHost p.authority).1).isEmpty || !host.isEmpty || port.isSome)
        p.path = none ∧
      u = ⟨lowercase p.scheme, quote inUser (splitHost p.authority).1, host, port,
        quote inPath (if !(lowercase p.scheme).isEmpty ||
          (!(quote inUser (splitHost p.authority).1).isEmpty || !host.isEmpty || port.isSome)
          then normalPath p.path else p.path),
        p.query.map (quote inQuery), p.fragment.map (quote inFragment)⟩ := by
  obtain ⟨⟨user, name, number⟩, hsplit⟩ : ∃ x, splitHost p.authority = x := ⟨_, rfl⟩
  unfold ofParts
  rw [hsplit]
  constructor
  · intro h
    obtain ⟨host, hhost, h⟩ := Result.bind_eq_ok_iff.1 h
    obtain ⟨port, hport, h⟩ := Result.bind_eq_ok_iff.1 h
    dsimp only at h
    split at h
    · cases h
    · rename_i hfault
      exact ⟨host, port, hhost, hport, hfault, (Except.ok.inj h).symm⟩
  · rintro ⟨host, port, hhost, hport, hfault, rfl⟩
    refine Result.bind_eq_ok_iff.2 ⟨host, hhost, Result.bind_eq_ok_iff.2 ⟨port, hport, ?_⟩⟩
    dsimp only at hfault ⊢
    rw [hfault]

/-- The host of an address is told by the authority of its text. -/
theorem host_of_parse (h : parse t = .ok u) :
    normalHost (splitHost (ofText t).authority).2.1 = .ok u.host := by
  obtain ⟨host, port, hhost, -, -, rfl⟩ := ofParts_eq_ok_iff.1 (parse_eq_ok_iff.1 h).2
  exact hhost

theorem pathFault?_of_head {path : Text} (h : path.head? = some '/') (hasAuthority : Bool) :
    pathFault? true hasAuthority path = none := by
  cases hasAuthority with
  | false => rfl
  | true => simp [pathFault?, h]

/-- An address with a scheme can have any path that starts with a slash. -/
theorem ofParts_with_path {path : Text} (h : ofParts p none = .ok u) (hscheme : u.scheme ≠ [])
    (hpath : path.head? = some '/') :
    ofParts { p with path } none = .ok { u with path := quote inPath (normalPath path) } := by
  obtain ⟨host, port, hhost, hport, -, rfl⟩ := ofParts_eq_ok_iff.1 h
  have hfull : (!(lowercase p.scheme).isEmpty) = true := by simpa using hscheme
  refine ofParts_eq_ok_iff.2 ⟨host, port, hhost, hport, ?_, ?_⟩
  · exact hfull ▸ pathFault?_of_head hpath _
  · dsimp only
    rw [hfull, Bool.true_or, if_pos rfl]

/-- The path of an address with a scheme is the form of the path in its text. -/
theorem path_of_parse (h : parse t = .ok u) (hscheme : u.scheme ≠ []) :
    u.path = quote inPath (normalPath (ofText t).path) := by
  obtain ⟨host, port, -, -, -, rfl⟩ := ofParts_eq_ok_iff.1 (parse_eq_ok_iff.1 h).2
  have hfull : (!(lowercase (ofText t).scheme).isEmpty) = true := by simpa using hscheme
  dsimp only
  rw [hfull, Bool.true_or, if_pos rfl]

/-- An address has a query or a fragment exactly if its text has one. -/
theorem query_of_parse (h : parse t = .ok u) : u.query = (ofText t).query.map (quote inQuery) ∧
    u.fragment = (ofText t).fragment.map (quote inFragment) := by
  obtain ⟨host, port, -, -, -, rfl⟩ := ofParts_eq_ok_iff.1 (parse_eq_ok_iff.1 h).2
  exact ⟨rfl, rfl⟩

/-- Where there is a host, the path is empty or starts with a slash. -/
theorem head?_path_of_parse (h : parse t = .ok u) (hhost : u.host ≠ []) :
    (ofText t).path = [] ∨ (ofText t).path.head? = some '/' := by
  obtain ⟨host, port, -, -, hfault, rfl⟩ := ofParts_eq_ok_iff.1 (parse_eq_ok_iff.1 h).2
  have hfull : (!host.isEmpty) = true := by simpa using hhost
  rw [hfull, Bool.or_true, Bool.true_or] at hfault
  unfold pathFault? at hfault
  rw [if_pos rfl] at hfault
  split at hfault
  · rename_i hpath
    simpa using hpath
  · cases hfault

/-- Where there is a host, there is an authority. -/
theorem authority_ne_nil_of_parse (h : parse t = .ok u) (hhost : u.host ≠ []) :
    (ofText t).authority ≠ [] := by
  intro hnil
  have hnone := host_of_parse h
  rw [hnil] at hnone
  exact hhost (Except.ok.inj hnone).symm

end CommitCheck.Url
