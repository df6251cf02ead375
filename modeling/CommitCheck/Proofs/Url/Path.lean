import CommitCheck.Proofs.Text.Pieces
import CommitCheck.Proofs.Text.Blank
import CommitCheck.Url.Basic
import Mathlib.Data.Nat.Digits.Defs

/-!
# Paths of addresses

A path is brought into form in two steps.  Segments of full stops that stand for a folder are
followed, and what may not stand in a path is quoted.  Quoting neither adds nor takes a slash
(`count_slash_quote`).  Following takes at least one (`count_normalPath_lt`).  So the form of a
path is its quoted text exactly if no segment of it stands for a folder
(`quote_normalPath_eq_iff`).
-/

namespace CommitCheck.Url

variable {t path : Text}

/-! ## Quoting -/

theorem quote_append (safe : Char → Bool) (t u : Text) :
    quote safe (t ++ u) = quote safe t ++ quote safe u := List.flatMap_append

theorem slash_not_mem_toDigits (n : Nat) : '/' ∉ (Nat.toDigits 16 n).map Char.toUpper := by
  have hdigit : ∀ d < 16, '/' ≠ (Nat.digitChar d).toUpper := by decide
  induction n using Nat.strongRecOn with
  | ind n ih =>
    by_cases h : n < 16
    · rw [Nat.toDigits_of_lt_base h]
      exact fun hmem => hdigit n h (List.mem_singleton.1 hmem)
    · rw [Nat.toDigits_of_base_le (by decide) (Nat.le_of_not_lt h), List.map_append,
        List.mem_append, not_or]
      exact ⟨ih (n / 16) (by omega),
        fun hmem => hdigit (n % 16) (Nat.mod_lt n (by decide)) (List.mem_singleton.1 hmem)⟩

theorem slash_not_mem_percentByte (b : Nat) : '/' ∉ percentByte b := by
  have hzeros (k : Nat) : '/' ∉ (List.replicate k '0').map Char.toUpper := by
    rw [List.map_replicate]
    exact fun h => absurd (List.eq_of_mem_replicate h) (by decide)
  unfold percentByte upperHexText hexText padLeft
  rw [List.map_append, List.mem_cons, List.mem_append, not_or, not_or]
  exact ⟨by decide, hzeros _, slash_not_mem_toDigits b⟩

/-- Only a slash is quoted as one. -/
theorem slash_not_mem_quoteChar {c : Char} (h : c ≠ '/') : '/' ∉ quoteChar inPath c := by
  unfold quoteChar
  split
  · exact fun hmem => h (List.mem_singleton.1 hmem).symm
  · intro hmem
    obtain ⟨b, -, hb⟩ := List.mem_flatMap.1 hmem
    exact slash_not_mem_percentByte b hb

theorem quoteChar_slash : quoteChar inPath '/' = ['/'] := by decide

theorem quote_append_slash (t u : Text) :
    quote inPath (t ++ '/' :: u) = quote inPath t ++ '/' :: quote inPath u := by
  have hcons : quote inPath ('/' :: u) = quoteChar inPath '/' ++ quote inPath u := rfl
  rw [quote_append, hcons, quoteChar_slash, List.singleton_append]

/-- To quote a path neither adds nor takes a slash. -/
theorem count_slash_quote (t : Text) : (quote inPath t).count '/' = t.count '/' := by
  induction t with
  | nil => rfl
  | cons c cs ih =>
    have hcons : quote inPath (c :: cs) = quoteChar inPath c ++ quote inPath cs := rfl
    rw [hcons, List.count_append, ih]
    by_cases hc : c = '/'
    · subst hc
      rw [quoteChar_slash, List.count_cons_self, List.count_cons_self, List.count_nil, Nat.add_comm]
    · rw [List.count_eq_zero.2 (slash_not_mem_quoteChar hc), List.count_cons_of_ne hc, Nat.zero_add]

theorem quoteChar_ne_nil (safe : Char → Bool) (c : Char) : quoteChar safe c ≠ [] := by
  unfold quoteChar
  split
  · exact List.cons_ne_nil c []
  · have hbytes : 0 < (charBytes c).length := by
      rw [charBytes, List.length_map, String.length_utf8EncodeChar]
      exact c.utf8Size_pos
    obtain ⟨b, bs, hb⟩ := List.exists_cons_of_length_pos hbytes
    rw [hb, List.flatMap_cons]
    exact List.cons_ne_nil _ _

theorem getLast?_quote (h : t.getLast? ≠ some '/') : (quote inPath t).getLast? ≠ some '/' := by
  cases hlast : t.getLast? with
  | none =>
    rw [List.getLast?_eq_none_iff.1 hlast]
    exact nofun
  | some c =>
    have hc : c ≠ '/' := fun hslash => h (hlast.trans (congrArg some hslash))
    obtain ⟨front, rfl⟩ := List.getLast?_eq_some_iff.1 hlast
    have hquoted : quote inPath [c] = quoteChar inPath c := List.append_nil _
    rw [quote_append, hquoted, List.getLast?_append,
      List.getLast?_eq_some_getLast (quoteChar_ne_nil inPath c), Option.some_or]
    intro hslash
    have hmem := List.getLast_mem (quoteChar_ne_nil inPath c)
    rw [Option.some.inj hslash] at hmem
    exact slash_not_mem_quoteChar hc hmem

/-- Slashes at the end of a path can be left out before or after it is quoted. -/
theorem dropTrail_quote (t : Text) :
    dropTrail (· == '/') (quote inPath t) = quote inPath (dropTrail (· == '/') t) := by
  obtain ⟨r, hr, hall⟩ := dropTrail_append (· == '/') t
  have hslash : ∀ c ∈ r, isUnreserved c = true ∨ inPath c = true := by
    intro c hc
    obtain rfl : c = '/' := by simpa using List.all_eq_true.1 hall c hc
    decide
  have hquote : quote inPath t = quote inPath (dropTrail (· == '/') t) ++ r := by
    conv_lhs => rw [hr, quote_append, quote_eq_self hslash]
  have hends : (quote inPath (dropTrail (· == '/') t)).getLast? ≠ some '/' :=
    getLast?_quote fun h => by cases dropTrail_getLast? h
  rw [hquote, dropTrail_append_of_all hall]
  refine dropTrail_eq_self fun c hc => beq_false_of_ne fun hc' => hends ?_
  rw [hc, hc']

/-! ## Folders -/

/-- Whether a segment stands for a folder: one full stop for the folder itself, two for the one
above. -/
def StandsForFolder (s : Text) : Prop := s = ['.'] ∨ s = ['.', '.']

/-- Whether a segment of a path stands for a folder. -/
def HasDots (path : Text) : Prop := ∃ s ∈ splitAt '/' path, StandsForFolder s

theorem hasDots_append_cons {a b : Text} : HasDots (a ++ '/' :: b) ↔ HasDots a ∨ HasDots b := by
  unfold HasDots
  rw [splitAt_append_cons]
  simp only [List.mem_append, or_and_right, exists_or]

theorem hasDots_of_not_mem (h : '/' ∉ path) : HasDots path ↔ StandsForFolder path := by
  unfold HasDots
  rw [splitAt_of_not_mem h]
  simp

/-- The form of a path follows the segments that stand for folders, if there are some. -/
theorem normalPath_of_hasDots (h : HasDots path) :
    normalPath path = joinWith ['/'] (keepSegments (splitAt '/' path)) := by
  obtain ⟨s, hs, rfl | rfl⟩ := h <;> simp [normalPath, hs]

/-- A path without such segments stays as it is. -/
theorem normalPath_eq_self (h : ¬HasDots path) : normalPath path = path := by
  have hone : ['.'] ∉ splitAt '/' path := fun hmem => h ⟨_, hmem, .inl rfl⟩
  have htwo : ['.', '.'] ∉ splitAt '/' path := fun hmem => h ⟨_, hmem, .inr rfl⟩
  simp [normalPath, hone, htwo]

/-- What one segment does to those that are kept before it. -/
def keep (kept : List Text) (s : Text) : List Text :=
  if s = ['.'] then kept
  else if s = ['.', '.'] then (if kept.isEmpty || kept == [[]] then kept else kept.dropLast)
  else kept ++ [s]

theorem keepSegments_eq (segments : List Text) : keepSegments segments = segments.foldl keep [] :=
  rfl

variable {kept segments : List Text} {s x : Text}

theorem keep_of_stands (kept : List Text) (h : StandsForFolder s) :
    keep kept s = kept ∨ keep kept s = kept.dropLast := by
  obtain rfl | rfl := h
  · exact .inl rfl
  · unfold keep
    rw [if_neg (by decide), if_pos rfl]
    split
    · exact .inl rfl
    · exact .inr rfl

theorem keep_of_not (h : ¬StandsForFolder s) : keep kept s = kept ++ [s] := by
  unfold StandsForFolder at h
  rw [not_or] at h
  unfold keep
  rw [if_neg h.1, if_neg h.2]

/-- A segment that stands for a folder is not kept. -/
theorem length_keep_le_of_stands (kept : List Text) (h : StandsForFolder s) :
    (keep kept s).length ≤ kept.length := by
  rcases keep_of_stands kept h with hkeep | hkeep <;> rw [hkeep]
  rw [List.length_dropLast]
  exact Nat.sub_le _ _

theorem length_keep_le (kept : List Text) (s : Text) : (keep kept s).length ≤ kept.length + 1 := by
  by_cases h : StandsForFolder s
  · exact Nat.le_succ_of_le (length_keep_le_of_stands kept h)
  · rw [keep_of_not h, List.length_append, List.length_singleton]

theorem mem_keep (h : x ∈ keep kept s) : x ∈ kept ∨ x = s := by
  by_cases hs : StandsForFolder s
  · rcases keep_of_stands kept hs with hkeep | hkeep <;> rw [hkeep] at h
    · exact .inl h
    · exact .inl (List.dropLast_subset kept h)
  · rw [keep_of_not hs] at h
    exact (List.mem_append.1 h).imp_right List.mem_singleton.1

theorem length_foldl_keep_le (kept segments : List Text) :
    (segments.foldl keep kept).length ≤ kept.length + segments.length := by
  induction segments generalizing kept with
  | nil => exact Nat.le_refl _
  | cons s rest ih =>
    have hstep := length_keep_le kept s
    have hrest := ih (keep kept s)
    rw [List.foldl_cons, List.length_cons]
    omega

/-- Fewer segments are kept than there are, if one stands for a folder. -/
theorem length_foldl_keep_lt (kept : List Text) (h : ∃ s ∈ segments, StandsForFolder s) :
    (segments.foldl keep kept).length < kept.length + segments.length := by
  induction segments generalizing kept with
  | nil =>
    obtain ⟨s, hs, -⟩ := h
    cases hs
  | cons s rest ih =>
    rw [List.foldl_cons, List.length_cons]
    by_cases hs : StandsForFolder s
    · have hstep := length_keep_le_of_stands kept hs
      have hrest := length_foldl_keep_le (keep kept s) rest
      omega
    · obtain ⟨d, hd, hdots⟩ := h
      rcases List.mem_cons.1 hd with rfl | hd
      · exact absurd hdots hs
      · have hstep := length_keep_le kept s
        have hrest := ih (keep kept s) ⟨d, hd, hdots⟩
        omega

/-- Nothing is kept but segments that were there. -/
theorem mem_foldl_keep (h : x ∈ segments.foldl keep kept) : x ∈ kept ∨ x ∈ segments := by
  induction segments generalizing kept with
  | nil => exact .inl h
  | cons s rest ih =>
    rcases ih h with hx | hx
    · rcases mem_keep hx with hx | rfl
      · exact .inl hx
      · exact .inr List.mem_cons_self
    · exact .inr (List.mem_cons_of_mem s hx)

/-- Where a segment stands for a folder, the form of a path has fewer slashes. -/
theorem count_normalPath_lt (h : HasDots path) (hslash : '/' ∈ path) :
    (normalPath path).count '/' < path.count '/' := by
  have hsegments := length_splitAt '/' path
  have hpos := List.count_pos_iff.2 hslash
  have hfewer := length_foldl_keep_lt [] h
  rw [← keepSegments_eq, List.length_nil, Nat.zero_add] at hfewer
  rw [normalPath_of_hasDots h]
  cases hkept : keepSegments (splitAt '/' path) with
  | nil => exact hpos
  | cons q qs =>
    have hpieces : ∀ p ∈ q :: qs, '/' ∉ p := by
      intro p hp
      rw [← hkept, keepSegments_eq] at hp
      exact not_mem_of_mem_splitAt ((mem_foldl_keep hp).resolve_left List.not_mem_nil)
    have hcount := length_splitAt '/' (joinWith ['/'] (q :: qs))
    rw [splitAt_joinWith (List.cons_ne_nil q qs) hpieces] at hcount
    rw [hkept] at hfewer
    omega

/-- The form of a path with a slash is its quoted text exactly if no segment stands for a
folder. -/
theorem quote_normalPath_eq_iff (hslash : '/' ∈ path) :
    quote inPath (normalPath path) = quote inPath path ↔ ¬HasDots path := by
  constructor
  · intro heq hdots
    have hcount := congrArg (List.count '/') heq
    rw [count_slash_quote, count_slash_quote] at hcount
    exact Nat.ne_of_lt (count_normalPath_lt hdots hslash) hcount
  · intro hdots
    rw [normalPath_eq_self hdots]

end CommitCheck.Url
