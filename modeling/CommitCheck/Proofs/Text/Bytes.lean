import CommitCheck.Proofs.Text.Pieces
import CommitCheck.Text.Bytes
import Mathlib.Data.List.TakeWhile

/-!
# Texts read back from their bytes

The bytes of a text are read as that text (`ofBytes?_textBytes`).  The first byte of a character
says how many bytes follow and in which range the second one is, so the bytes of a character are
read together whatever comes behind them (`firstChar_append`).  What is left is a question about the
digits of the number of the character in base 64, for each of the four lengths.
-/

namespace CommitCheck

/-- Numbers of characters leave out the surrogates. -/
theorem toNat_bounds (c : Char) :
    c.toNat < 0xD800 ∨ 0xDFFF < c.toNat ∧ c.toNat < 0x110000 := c.valid

/-- The bytes of a character, by the size of its number. -/
theorem charBytes_cases (c : Char) :
    (c.toNat < 0x80 ∧ charBytes c = [c.toNat]) ∨
    (0x80 ≤ c.toNat ∧ c.toNat < 0x800 ∧
      charBytes c = [0xC0 + c.toNat / 64, 0x80 + c.toNat % 64]) ∨
    (0x800 ≤ c.toNat ∧ c.toNat < 0x10000 ∧
      charBytes c = [0xE0 + c.toNat / 4096, 0x80 + c.toNat / 64 % 64, 0x80 + c.toNat % 64]) ∨
    (0x10000 ≤ c.toNat ∧
      charBytes c = [0xF0 + c.toNat / 262144, 0x80 + c.toNat / 4096 % 64,
        0x80 + c.toNat / 64 % 64, 0x80 + c.toNat % 64]) := by
  have hbounds := toNat_bounds c
  have hval : c.val.toNat = c.toNat := rfl
  unfold charBytes String.utf8EncodeChar
  rw [hval]
  dsimp only
  split
  · exact .inl ⟨by omega, by simp; omega⟩
  · split
    · exact .inr (.inl ⟨by omega, by omega, by simp; omega⟩)
    · split
      · exact .inr (.inr (.inl ⟨by omega, by omega, by simp; omega⟩))
      · exact .inr (.inr (.inr ⟨by omega, by simp; omega⟩))

/-- The bytes of a character are read together, whatever comes behind them. -/
theorem firstChar_append {b d lo hi : Nat} {ds : List Nat} (hb : 0x80 ≤ b)
    (hcount : followers b = (ds.length + 1, lo, hi)) (hd : lo ≤ d ∧ d ≤ hi)
    (hds : ∀ e ∈ ds, 0x80 ≤ e ∧ e ≤ 0xBF) (bs : List Nat) :
    firstChar b (d :: ds ++ bs) =
      (Char.ofNat ((d :: ds).foldl (fun n e => n * 64 + (e - 0x80)) (firstBits b (ds.length + 1))),
        ds.length + 1) := by
  have htake : (d :: ds ++ bs).take (ds.length + 1) = d :: ds := by
    rw [List.cons_append, List.take_succ_cons, List.take_left]
  have hall : ds.takeWhile (fun e => 0x80 ≤ e && e ≤ 0xBF) = ds :=
    List.takeWhile_eq_self_iff.2 fun e he => by simp [hds e he]
  have hfollow : followersIn b (d :: ds ++ bs) = d :: ds := by
    unfold followersIn
    rw [hcount]
    dsimp only
    rw [htake]
    dsimp only
    rw [hall, if_pos (by simp [hd])]
  unfold firstChar
  rw [hfollow, hcount]
  simp [hb]

theorem ofBytesAfter_length_append (t bs : List Nat) :
    ofBytesAfter t.length (t ++ bs) = ofBytesAfter 0 bs := by
  rw [skip_eq_drop (f := ofBytesAfter) (fun _ => rfl) fun _ _ _ => rfl, List.drop_left]

theorem ofBytes_of_firstChar {b : Nat} (ds : List Nat) {bs : List Nat} {c : Char}
    (h : firstChar b (ds ++ bs) = (c, ds.length)) : ofBytes (b :: ds ++ bs) = c :: ofBytes bs := by
  show (firstChar b (ds ++ bs)).1 :: ofBytesAfter (firstChar b (ds ++ bs)).2 (ds ++ bs) = _
  rw [h, ofBytesAfter_length_append]
  rfl

/-- The bytes of a character are read as it if they are in their ranges and have its number. -/
theorem ofBytes_of_followers {b d lo hi : Nat} {ds : List Nat} {c : Char} (hb : 0x80 ≤ b)
    (hcount : followers b = (ds.length + 1, lo, hi)) (hd : lo ≤ d ∧ d ≤ hi)
    (hds : ∀ e ∈ ds, 0x80 ≤ e ∧ e ≤ 0xBF)
    (hcode : (d :: ds).foldl (fun n e => n * 64 + (e - 0x80)) (firstBits b (ds.length + 1)) =
      c.toNat) (bs : List Nat) : ofBytes (b :: d :: ds ++ bs) = c :: ofBytes bs := by
  refine ofBytes_of_firstChar (d :: ds) ?_
  rw [firstChar_append hb hcount hd hds, hcode, Char.ofNat_toNat]
  rfl

/-! ## What the first byte says -/

theorem followers_of_two {b : Nat} (hle : 0xC2 ≤ b) (hlt : b < 0xE0) :
    followers b = (1, 0x80, 0xBF) := by
  unfold followers
  rw [if_neg (by omega), if_pos hlt]

/-- The second of three bytes is in the range that the first one says.  The ranges leave out the
surrogates. -/
theorem exists_followers_of_three {n : Nat} (hle : 0x800 ≤ n)
    (hlt : n < 0xD800 ∨ 0xDFFF < n ∧ n < 0x10000) :
    ∃ lo hi, followers (0xE0 + n / 4096) = (2, lo, hi) ∧
      lo ≤ 0x80 + n / 64 % 64 ∧ 0x80 + n / 64 % 64 ≤ hi := by
  unfold followers
  rw [if_neg (by omega), if_neg (by omega)]
  split
  · exact ⟨0xA0, 0xBF, rfl, by omega⟩
  · split
    · exact ⟨0x80, 0x9F, rfl, by omega⟩
    · rw [if_pos (by omega)]
      exact ⟨0x80, 0xBF, rfl, by omega⟩

theorem exists_followers_of_four {n : Nat} (hle : 0x10000 ≤ n) (hlt : n < 0x110000) :
    ∃ lo hi, followers (0xF0 + n / 262144) = (3, lo, hi) ∧
      lo ≤ 0x80 + n / 4096 % 64 ∧ 0x80 + n / 4096 % 64 ≤ hi := by
  unfold followers
  rw [if_neg (by omega), if_neg (by omega), if_neg (by omega), if_neg (by omega),
    if_neg (by omega)]
  split
  · exact ⟨0x90, 0xBF, rfl, by omega⟩
  · split
    · exact ⟨0x80, 0xBF, rfl, by omega⟩
    · rw [if_pos (by omega)]
      exact ⟨0x80, 0x8F, rfl, by omega⟩

/-! ## Characters and texts -/

/-- The bytes of a character are read as the character. -/
theorem ofBytes_charBytes_append (c : Char) (bs : List Nat) :
    ofBytes (charBytes c ++ bs) = c :: ofBytes bs := by
  have hbounds := toNat_bounds c
  rcases charBytes_cases c with ⟨hlt, hbytes⟩ | ⟨hle, hlt, hbytes⟩ | ⟨hle, hlt, hbytes⟩ |
    ⟨hle, hbytes⟩
  · rw [hbytes]
    refine ofBytes_of_firstChar [] ?_
    have hnone : followersIn c.toNat bs = [] := by
      have hfew : c.toNat < 0xC2 := by omega
      simp [followersIn, followers, hfew]
    simp [firstChar, hnone, firstBits, Nat.not_le.2 hlt]
  · rw [hbytes]
    refine ofBytes_of_followers (by omega) (followers_of_two (by omega) (by omega)) (by omega)
      (List.forall_mem_nil _) ?_ bs
    simp [firstBits]
    omega
  · obtain ⟨lo, hi, hcount, hd⟩ := exists_followers_of_three hle (by omega)
    rw [hbytes]
    refine ofBytes_of_followers (by omega) hcount hd (List.forall_mem_singleton.2 (by omega)) ?_ bs
    simp [firstBits]
    omega
  · obtain ⟨lo, hi, hcount, hd⟩ := exists_followers_of_four hle (by omega)
    rw [hbytes]
    refine ofBytes_of_followers (by omega) hcount hd
      (List.forall_mem_cons.2 ⟨by omega, List.forall_mem_singleton.2 (by omega)⟩) ?_ bs
    simp [firstBits]
    omega

/-- The bytes of a text are read as the text. -/
theorem ofBytes_textBytes (t : Text) : ofBytes (textBytes t) = t := by
  induction t with
  | nil => rfl
  | cons c cs ih => rw [textBytes, List.flatMap_cons, ofBytes_charBytes_append, ← textBytes, ih]

theorem ofBytes?_textBytes (t : Text) : ofBytes? (textBytes t) = some t := by
  rw [ofBytes?, ofBytes_textBytes, if_pos rfl]

end CommitCheck
