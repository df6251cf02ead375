import CommitCheck.Value.Basic
import Mathlib.Data.List.Nodup

/-!
# Fields with distinct names

To set a field adds no name twice (`nodup_names_set`).  Where no name is there twice, the fields
that are set over others are those that count (`get?_merge`), and the others count only under the
names that are left (`get?_merge_eq_or`).
-/

namespace CommitCheck.Fields

variable {fs gs : Fields} {name : Text} {v : Value}

/-- The names of fields. -/
def names (fs : Fields) : List Text := fs.map Prod.fst

theorem get?_set_self (fs : Fields) (name : Text) (v : Value) :
    (fs.set name v).get? name = some v := lookup_set_self fs name v

theorem get?_set_of_ne (fs : Fields) {name other : Text} (v : Value) (h : other ≠ name) :
    (fs.set name v).get? other = fs.get? other := lookup_set_of_ne fs v h

theorem get?_eq_none_iff : fs.get? name = none ↔ name ∉ fs.names := by
  rw [get?, List.lookup_eq_none_iff, names, List.mem_map, not_exists]
  refine forall_congr' fun f => ?_
  rw [not_and, bne_iff_ne, ne_comm]

theorem has_eq_isSome (fs : Fields) (name : Text) : fs.has name = (fs.get? name).isSome := rfl

/-- To set a field that is there adds no name. -/
theorem has_set_of_has (h : fs.has name = true) (v : Value) (other : Text) :
    (fs.set name v).has other = fs.has other := by
  rw [has_eq_isSome, has_eq_isSome]
  by_cases hother : other = name
  · subst hother
    rw [get?_set_self, ← has_eq_isSome, h, Option.isSome_some]
  · rw [get?_set_of_ne fs v hother]

theorem mem_of_get? (h : fs.get? name = some v) : (name, v) ∈ fs := by
  obtain ⟨before, after, rfl, -⟩ := List.lookup_eq_some_iff.1 h
  exact List.mem_append_right before List.mem_cons_self

/-- A field that was set is the new one or was there before. -/
theorem mem_set {f : Text × Value} (h : f ∈ fs.set name v) : f = (name, v) ∨ f ∈ fs := by
  induction fs with
  | nil => exact .inl (List.mem_singleton.1 h)
  | cons g gs ih =>
    obtain ⟨n, w⟩ := g
    unfold set at h
    split at h
    · rename_i hn
      subst hn
      rcases List.mem_cons.1 h with rfl | h
      · exact .inl rfl
      · exact .inr (List.mem_cons_of_mem _ h)
    · rcases List.mem_cons.1 h with rfl | h
      · exact .inr List.mem_cons_self
      · exact (ih h).imp_right (List.mem_cons_of_mem _)

/-- To set a field adds no name but its own. -/
theorem mem_names_set {other : Text} (h : other ∈ (fs.set name v).names) :
    other = name ∨ other ∈ fs.names := by
  obtain ⟨f, hf, rfl⟩ := List.mem_map.1 h
  rcases mem_set hf with rfl | hf
  · exact .inl rfl
  · exact .inr (List.mem_map_of_mem hf)

theorem nodup_names_set (h : fs.names.Nodup) : (fs.set name v).names.Nodup := by
  induction fs with
  | nil => exact List.nodup_singleton name
  | cons f fs ih =>
    obtain ⟨n, w⟩ := f
    obtain ⟨hn, hfs⟩ := List.nodup_cons.1 h
    unfold set
    split
    · exact h
    · rename_i hne
      refine List.nodup_cons.2 ⟨fun hmem => ?_, ih hfs⟩
      rcases mem_names_set hmem with rfl | hmem
      · exact hne rfl
      · exact hn hmem

theorem merge_cons (fs : Fields) (f : Text × Value) (gs : Fields) :
    fs.merge (f :: gs) = (fs.set f.1 f.2).merge gs := rfl

/-- A name that is not set over the others keeps its value. -/
theorem get?_merge_of_not_mem (h : name ∉ gs.names) : (fs.merge gs).get? name = fs.get? name := by
  induction gs generalizing fs with
  | nil => rfl
  | cons g gs ih =>
    rw [names, List.map_cons, List.mem_cons, not_or] at h
    rw [merge_cons, ih h.2, get?_set_of_ne fs g.2 h.1]

/-- A value that is set over others is the value of its name, if no name is set twice. -/
theorem get?_merge (hgs : gs.names.Nodup) (h : gs.get? name = some v) :
    (fs.merge gs).get? name = some v := by
  induction gs generalizing fs with
  | nil => cases h
  | cons g gs ih =>
    obtain ⟨n, w⟩ := g
    obtain ⟨hn, hrest⟩ := List.nodup_cons.1 hgs
    rw [merge_cons]
    by_cases hname : name = n
    · subst hname
      obtain rfl : w = v := by simpa [get?] using h
      rw [get?_merge_of_not_mem hn, get?_set_self]
    · have hne : (name == n) = false := by simpa using hname
      rw [get?, List.lookup_cons, hne] at h
      exact ih hrest h

/-- A name has the value that is set over the others, and without one the value that it had. -/
theorem get?_merge_eq_or (fs : Fields) (hgs : gs.names.Nodup) (name : Text) :
    (fs.merge gs).get? name = (gs.get? name).or (fs.get? name) := by
  cases h : gs.get? name with
  | none => rw [get?_merge_of_not_mem (get?_eq_none_iff.1 h), Option.none_or]
  | some v => rw [get?_merge hgs h, Option.some_or]

/-- What a name has after others were set depends on what it had before. -/
theorem get?_merge_congr {fs' : Fields} (h : fs.get? name = fs'.get? name) (gs : Fields) :
    (fs.merge gs).get? name = (fs'.merge gs).get? name := by
  induction gs generalizing fs fs' with
  | nil => exact h
  | cons g gs ih =>
    rw [merge_cons, merge_cons]
    refine ih ?_
    by_cases hname : name = g.1
    · subst hname
      rw [get?_set_self, get?_set_self]
    · rw [get?_set_of_ne _ _ hname, get?_set_of_ne _ _ hname, h]

/-- A new name is set at the end. -/
theorem set_of_not_mem (h : name ∉ gs.names) (v : Value) : gs.set name v = gs ++ [(name, v)] := by
  induction gs with
  | nil => rfl
  | cons g gs ih =>
    obtain ⟨n, w⟩ := g
    rw [names, List.map_cons, List.mem_cons, not_or] at h
    unfold set
    rw [if_neg (Ne.symm h.1), ih h.2]
    rfl

/-- To set a new name among the fields that are set over others is to set it last. -/
theorem merge_set_of_not_mem (fs : Fields) (h : name ∉ gs.names) (v : Value) :
    fs.merge (gs.set name v) = (fs.merge gs).set name v := by
  rw [set_of_not_mem h, merge, List.foldl_append]
  rfl

end CommitCheck.Fields
