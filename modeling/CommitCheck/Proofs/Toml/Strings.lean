import CommitCheck.Proofs.Text.Pieces
import CommitCheck.Toml.Printer
import Mathlib.Data.List.Basic

/-!
# Strings and keys written and read as TOML

Each character of a string is read back from the way it is written (`basicString_charText`), so
a string is read back up to its closing quote (`basicString_append`).  A part of a key is written
bare or as a string, and read back either way (`keyPart_keyText`).  The same holds of all parts
of a key with full stops between them (`key_path`).
-/

namespace CommitCheck.Toml

/-! ## Escapes -/

theorem charOfHex?_hexText : ∀ n < 128,
    (hexText 4 n).length = 4 ∧ charOfHex? (hexText 4 n) = some (Char.ofNat n) := by decide +kernel

theorem lt_of_isIllegal {c : Char} (h : isIllegal c = true) : c.toNat < 128 := by
  simp only [isIllegal, Bool.or_eq_true, Bool.and_eq_true, decide_eq_true_eq, beq_iff_eq] at h
  omega

/-- A character that is not shown in a string is read back from its number. -/
theorem basicString_hexText {c : Char} (h : isIllegal c = true) (rest : Text) :
    basicString ('\\' :: 'u' :: hexText 4 c.toNat ++ rest) = (basicString rest).map (push c) := by
  obtain ⟨hlength, hread⟩ := charOfHex?_hexText c.toNat (lt_of_isIllegal h)
  rw [Char.ofNat_toNat] at hread
  generalize hexText 4 c.toNat = digits at *
  match digits, hlength with
  | [x, y, z, w], _ =>
    change (charOfHex? [x, y, z, w]).bind (fun c => (basicString rest).map (push c)) = _
    rw [hread, Option.bind_some]

/-- A character that is shown as it is stands for itself. -/
theorem basicString_cons {c : Char} (hquote : c ≠ '"') (hback : c ≠ '\\')
    (h : isIllegal c = false) (rest : Text) :
    basicString (c :: rest) = (basicString rest).map (push c) := by
  have hplain : (isIllegal c || c == '\\') = false := by simpa [h] using hback
  rw [basicString, hplain, if_neg Bool.false_ne_true]
  · exact hquote
  -- every escape starts with a backslash
  all_goals
    intros
    contradiction

/-- Each character of a string is read back from the way it is written. -/
theorem basicString_charText (c : Char) (rest : Text) :
    basicString (charText c ++ rest) = (basicString rest).map (push c) := by
  unfold charText
  iterate 6
    split
    · rename_i h
      rw [h]
      rfl
  split
  · rename_i h
    exact basicString_hexText h rest
  · rename_i hquote hback _ _ _ _ h
    exact basicString_cons hquote hback (by simpa using h) rest

/-- No quote stands for a character, and so none ends the string early. -/
theorem charText_append_ne (c : Char) (rest ds : Text) : charText c ++ rest ≠ '"' :: ds := by
  intro heq
  unfold charText at heq
  iterate 7
    split at heq
    · exact absurd (List.cons.inj heq).1 (by decide)
  rename_i hquote _ _ _ _ _ _
  exact hquote (List.cons.inj heq).1

/-- A string is read back up to its closing quote. -/
theorem basicString_append (t rest : Text) :
    basicString (t.flatMap charText ++ '"' :: rest) = some (t, rest) := by
  induction t with
  | nil => rfl
  | cons c cs ih =>
    rw [List.flatMap_cons, List.append_assoc, basicString_charText, ih]
    rfl

theorem stringText_append (t rest : Text) :
    stringText t ++ rest = '"' :: (t.flatMap charText ++ '"' :: rest) := by
  simp [stringText]

/-! ## Keys -/

theorem isBare_ne {c d : Char} (hc : isBare c = true) (hd : isBare d = false) : c ≠ d := by
  rintro rfl
  rw [hc] at hd
  exact Bool.noConfusion hd

/-- A part of a key starts with a quote or with a character that stands in a bare key. -/
theorem exists_keyText_eq_cons (k : Text) :
    ∃ c cs, keyText k = c :: cs ∧ ∀ d, isBare d = false → d ≠ '"' → c ≠ d := by
  unfold keyText
  split
  · rename_i h
    obtain ⟨hne, hall⟩ : k ≠ [] ∧ ∀ d ∈ k, isBare d = true := by simpa using h
    obtain ⟨c, cs, rfl⟩ := List.exists_cons_of_ne_nil hne
    exact ⟨c, cs, rfl, fun d hd _ => isBare_ne (hall c List.mem_cons_self) hd⟩
  · exact ⟨'"', _, rfl, fun d _ hd => hd.symm⟩

/-- No blank stands before a part of a key. -/
theorem dropWhile_keyText (k rest : Text) :
    (keyText k ++ rest).dropWhile isSpace = keyText k ++ rest := by
  obtain ⟨c, cs, htext, hc⟩ := exists_keyText_eq_cons k
  have hblank : c ≠ ' ' := hc ' ' (by decide) (by decide)
  have htab : c ≠ '\t' := hc '\t' (by decide) (by decide)
  rw [htext, List.cons_append, List.dropWhile_cons_of_neg (by simp [isSpace, hblank, htab])]

theorem keyPart_bare {k : Text} (hne : k ≠ []) (hall : ∀ d ∈ k, isBare d = true) {c : Char}
    (hc : isBare c = false) (cs : Text) : keyPart (k ++ c :: cs) = some (k, c :: cs) := by
  have htake : (k ++ c :: cs).takeWhile isBare = k := by
    rw [List.takeWhile_append_of_pos hall, List.takeWhile_cons_of_neg (by simp [hc]),
      List.append_nil]
  have hdrop : (k ++ c :: cs).dropWhile isBare = c :: cs := by
    rw [List.dropWhile_append_of_pos hall, List.dropWhile_cons_of_neg (by simp [hc])]
  obtain ⟨d, ds, rfl⟩ := List.exists_cons_of_ne_nil hne
  have hd : isBare d = true := hall d List.mem_cons_self
  unfold keyPart
  split
  · rename_i heq
    exact absurd (List.cons.inj heq).1 (isBare_ne hd (by decide))
  · rename_i heq
    exact absurd (List.cons.inj heq).1 (isBare_ne hd (by decide))
  · dsimp only
    rw [htake, hdrop]
    rfl

/-- A part of a key is read back, whether it is in quotes or not. -/
theorem keyPart_keyText (k : Text) {c : Char} (hc : isBare c = false) (cs : Text) :
    keyPart (keyText k ++ c :: cs) = some (k, c :: cs) := by
  unfold keyText
  split
  · rename_i h
    obtain ⟨hne, hall⟩ : k ≠ [] ∧ ∀ d ∈ k, isBare d = true := by simpa using h
    exact keyPart_bare hne hall hc cs
  · rw [stringText_append]
    exact basicString_append k (c :: cs)

/-- A key of one part is read up to what follows the blanks behind it. -/
theorem key_keyText (bound : Nat) (k : Text) {c : Char} (hc : isBare c = false) {cs rest : Text}
    (hrest : (c :: cs).dropWhile isSpace = rest) (hdot : rest.head? ≠ some '.') :
    key (bound + 1) (keyText k ++ c :: cs) = some ([k], rest) := by
  unfold key
  rw [keyPart_keyText k hc cs, Option.bind_eq_bind, Option.bind_some]
  dsimp only
  rw [hrest]
  split
  · exact absurd rfl hdot
  · rfl

/-- The first part of a key is read up to the full stop before the next one. -/
theorem key_keyText_append (bound : Nat) (k k' rest : Text) :
    key (bound + 1) (keyText k ++ '.' :: (keyText k' ++ rest)) =
      (key bound (keyText k' ++ rest)).map fun (ks, rest) => (k :: ks, rest) := by
  rw [key, keyPart_keyText k (by decide), Option.bind_eq_bind, Option.bind_some]
  dsimp only
  rw [List.dropWhile_cons_of_neg (by decide)]
  change ((key bound ((keyText k' ++ rest).dropWhile isSpace)).bind fun (ks, rest) =>
    some (k :: ks, rest)) = _
  rw [dropWhile_keyText]
  cases key bound (keyText k' ++ rest) <;> rfl

/-- The parts of a key are read back up to what follows them. -/
theorem key_path {path : List Text} (hpath : path ≠ []) {bound : Nat} (hbound : path.length ≤ bound)
    {c : Char} (hc : isBare c = false) (hspace : isSpace c = false) (hdot : c ≠ '.') (cs : Text) :
    key bound (joinWith ['.'] (path.map keyText) ++ c :: cs) = some (path, c :: cs) := by
  induction path generalizing bound with
  | nil => exact absurd rfl hpath
  | cons k path ih =>
    obtain ⟨n, rfl⟩ : ∃ n, bound = n + 1 := Nat.exists_eq_add_one_of_ne_zero (by
      rintro rfl
      exact Nat.not_succ_le_zero _ hbound)
    cases path with
    | nil =>
      rw [List.map_singleton, joinWith_singleton]
      exact key_keyText n k hc (List.dropWhile_cons_of_neg (by simp [hspace])) (by simpa using hdot)
    | cons k' path =>
      have hrest := ih (List.cons_ne_nil k' path) (Nat.le_of_succ_le_succ hbound)
      obtain ⟨tail, htail⟩ := exists_joinWith_cons ['.'] (keyText k') (path.map keyText)
      rw [List.map_cons, htail, List.append_assoc] at hrest
      rw [List.map_cons, List.map_cons, joinWith_cons_cons, htail,
        List.append_assoc, List.append_assoc, List.append_assoc, List.singleton_append,
        key_keyText_append, hrest]
      rfl

/-! ## Carriage returns -/

theorem return_not_mem_hexText : ∀ n < 128, '\r' ∉ hexText 4 n := by decide +kernel

/-- A carriage return is written as an escape. -/
theorem return_not_mem_charText (c : Char) : '\r' ∉ charText c := by
  unfold charText
  iterate 6
    split
    · decide
  split
  · rename_i h
    have hhex := return_not_mem_hexText c.toNat (lt_of_isIllegal h)
    simpa using hhex
  · rename_i hreturn _ _ _
    exact fun h => hreturn (List.mem_singleton.1 h).symm

theorem return_not_mem_stringText (t : Text) : '\r' ∉ stringText t := by
  have hchars : '\r' ∉ t.flatMap charText := fun h =>
    (List.mem_flatMap.1 h).elim fun c hc => return_not_mem_charText c hc.2
  simpa [stringText] using hchars

theorem return_not_mem_keyText (k : Text) : '\r' ∉ keyText k := by
  unfold keyText
  split
  · rename_i h
    obtain ⟨-, hall⟩ : k ≠ [] ∧ ∀ d ∈ k, isBare d = true := by simpa using h
    exact fun hk => isBare_ne (hall _ hk) (by decide) rfl
  · exact return_not_mem_stringText k

end CommitCheck.Toml
