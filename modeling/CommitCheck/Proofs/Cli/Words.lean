import CommitCheck.Cli.Invocation
import Mathlib.Data.List.Basic

/-!
# Command lines with one option more

What the words of a command line give is read from the first word on, so an option in front is one
option more (`Given.read_option`).  Where its purpose is not given otherwise, its value counts, and
the values for other purposes are those that they were.  If its value is of use, it hides no path
that is of no use, nor does it add one (`badPath?_withOption`).
-/

namespace CommitCheck.Cli

variable {g : Given} {p q : Purpose} {value : Text} {files : Files}

/-! ## One option more -/

namespace Given

/-- One option more, in front. -/
def withOption (g : Given) (p : Purpose) (value : Text) : Given :=
  { g with options := (p, value) :: g.options }

@[simp]
theorem extra_withOption : (g.withOption p value).extra = g.extra := rfl

theorem value?_withOption (g : Given) (p q : Purpose) (value : Text) :
    (g.withOption p value).value? q = (g.value? q).or (if q = p then some value else none) := by
  show ((p, value) :: g.options).reverse.lookup q = _
  rw [List.reverse_cons, List.lookup_append, value?]
  congr 1
  by_cases hq : q = p
  · rw [hq, List.lookup_cons_self, if_pos rfl]
  · rw [if_neg hq, List.lookup_cons, beq_eq_false_iff_ne.2 hq, List.lookup_nil]

theorem value?_withOption_of_ne (hq : q ≠ p) : (g.withOption p value).value? q = g.value? q := by
  rw [value?_withOption, if_neg hq, Option.or_none]

theorem has_withOption_of_ne (hq : q ≠ p) : (g.withOption p value).has q = g.has q :=
  congrArg Option.isSome (value?_withOption_of_ne hq)

theorem value?_withOption_self (h : g.value? p = none) :
    (g.withOption p value).value? p = some value := by
  rw [value?_withOption, h, if_pos rfl, Option.none_or]

theorem not_mem_of_value?_eq_none (h : g.value? p = none) : p ∉ g.options.map Prod.fst := by
  intro hmem
  obtain ⟨⟨q, value⟩, hopt, rfl⟩ := List.mem_map.1 hmem
  rw [value?, List.lookup_eq_none_iff] at h
  exact absurd (h (q, value) (List.mem_reverse.2 hopt)) (by simp)

theorem purposes_withOption (h : g.value? p = none) :
    (g.withOption p value).purposes = p :: g.purposes := by
  have hother : (g.options.map Prod.fst).filter (fun q => !q == p) = g.options.map Prod.fst :=
    List.filter_eq_self.2 fun q hq => by
      have hne : q ≠ p := fun heq => not_mem_of_value?_eq_none h (heq ▸ hq)
      simp [hne]
  show (p :: g.options.map Prod.fst).eraseDups = _
  rw [List.eraseDups_cons, hother, purposes]

theorem read_option {name : Text} {words : List Text} (hname : name ≠ ['-', '-'])
    (h : ofWord name = some (.ok ⟨[], some (p, name)⟩)) :
    read (name :: value :: words) = (read words).map (·.withOption p value) := by
  rw [read, if_neg hname, h]
  rfl

end Given

/-! ## Paths of no use -/

/-- What is wrong with the value of an option that is given. -/
def fault? (files : Files) (g : Given) (p : Purpose) : Option Misuse :=
  (pathFault? files p ((g.value? p).getD [])).map (.path p ((g.value? p).getD []))

theorem badPath?_eq (files : Files) (g : Given) :
    badPath? files g = (g.purposes.filterMap (fault? files g)).head? :=
  List.head?_filterMap.symm

/-- An option of use in front of others for other purposes spoils none of their paths. -/
theorem badPath?_withOption (h : g.value? p = none)
    (hfault : pathFault? files p value = none) :
    badPath? files (g.withOption p value) = badPath? files g := by
  have hself : fault? files (g.withOption p value) p = none := by
    rw [fault?, Given.value?_withOption_self h, Option.getD_some, hfault]
    rfl
  have hothers : ∀ q ∈ g.purposes, fault? files (g.withOption p value) q = fault? files g q := by
    intro q hq
    have hne : q ≠ p := fun heq =>
      Given.not_mem_of_value?_eq_none h (heq ▸ List.mem_eraseDups.1 hq)
    rw [fault?, Given.value?_withOption_of_ne hne, fault?]
  rw [badPath?_eq, badPath?_eq, Given.purposes_withOption h, List.filterMap_cons_none hself,
    List.filterMap_congr hothers]

/-! ## What is asked for -/

/-- An invocation is that of options whose paths are of use. -/
theorem Request.eq_ofGiven_of_work {i : Invocation} (h : ofGiven files g = .ok (.work i)) :
    badPath? files g = none ∧ i = .ofGiven g := by
  unfold ofGiven at h
  split at h
  · cases h
  · split at h
    · cases h
    · rename_i hbad
      split at h
      · cases h
      · dsimp only at h
        split at h
        · cases h
        · exact ⟨hbad, (Request.work.inj (Except.ok.inj h)).symm⟩

end CommitCheck.Cli
