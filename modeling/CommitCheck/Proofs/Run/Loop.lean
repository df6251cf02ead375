import CommitCheck.Proofs.Run
import CommitCheck.Run.Loop

/-!
# What gathered runs come to

An event loop that gathers runs comes to what the runs come to when they are settled one
after another (`run_gather`).

The loop goes through two phases.  First all runs are started, while the notices of their
ends queue up behind the starts (`run_starts`).  So everything that happens has happened
before the first end is noticed.  Then the notices are heeded in the order of the places, up
to the one that decides (`run_notices`), and the rest of them change nothing (`run_decided`).
-/

namespace CommitCheck.Loop

open Run (settle settleAll)

variable {α : Type}

/-- The notices of so many places, counted from a number. -/
def notices : Nat → Nat → List (Due α)
  | _, 0 => []
  | place, n + 1 => .notice place :: notices (place + 1) n
termination_by structural _ n => n

/-- What runs came to, by their places. -/
def outcomes (rs : List (Run α)) : List (Option (Except Failure α)) := rs.map (some ·.outcome)

/-! ## Turns -/

variable {queue : List (Due α)} {trace : List Event} {ended : List (Option (Except Failure α))}
  {noticed place : Nat} {whole : Option (Except Failure (List α))}

theorem run_start {r : Run α} :
    run ⟨.start place r :: queue, trace, ended, noticed, whole⟩ =
      run ⟨queue ++ [.notice place], trace ++ r.trace, ended.set place (some r.outcome), noticed,
        whole⟩ := by
  rw [run]
  rfl

theorem run_wake {x : Except Failure (List α)} :
    run ⟨.wake :: queue, trace, ended, noticed, some x⟩ = ⟨trace, x⟩ := by
  rw [run]
  rfl

/-- A notice after the whole is decided. -/
theorem run_notice_of_decided {x : Except Failure (List α)} :
    run ⟨.notice place :: queue, trace, ended, noticed, some x⟩ =
      run ⟨queue, trace, ended, noticed + 1, some x⟩ := by
  rw [run]
  rfl

/-- The notice of a failure decides the whole. -/
theorem run_notice_of_error {e : Failure} (h : ended[place]? = some (some (.error e))) :
    run ⟨.notice place :: queue, trace, ended, noticed, none⟩ =
      run ⟨queue ++ [.wake], trace, ended, noticed + 1, some (.error e)⟩ := by
  rw [run, heeded]
  simp only [Option.isSome_none, Bool.false_eq_true, if_false, h]
  rfl

/-- The notice of a success does if it is the last one. -/
theorem run_notice_of_ok {a : α} (h : ended[place]? = some (some (.ok a))) :
    run ⟨.notice place :: queue, trace, ended, noticed, none⟩ =
      if noticed + 1 = ended.length then
        run ⟨queue ++ [.wake], trace, ended, noticed + 1, some (.ok (results ended))⟩
      else run ⟨queue, trace, ended, noticed + 1, none⟩ := by
  rw [run, heeded]
  simp only [Option.isSome_none, Bool.false_eq_true, if_false, h]
  split <;> rfl

/-! ## Phases -/

/-- All runs are started before the first notice, and each leaves what it came to in its
place. -/
theorem run_starts (rs : List (Run α)) {before : List (Option (Except Failure α))}
    (hplace : before.length = place) :
    run ⟨starts place rs ++ queue, trace, before ++ rs.map fun _ => none, noticed, whole⟩ =
      run ⟨queue ++ notices place rs.length, trace ++ rs.flatMap Run.trace,
        before ++ outcomes rs, noticed, whole⟩ := by
  induction rs generalizing place queue trace before with
  | nil => simp [starts, notices, outcomes]
  | cons r rs ih =>
    have hset : (before ++ none :: rs.map fun _ => none).set place (some r.outcome) =
        (before ++ [some r.outcome]) ++ rs.map fun _ => none := by
      rw [← hplace, List.set_append_right _ _ (Nat.le_refl _), Nat.sub_self, List.append_assoc]
      rfl
    have hnext : (before ++ [some r.outcome]).length = place + 1 := by
      rw [List.length_append, hplace]
      rfl
    rw [starts, List.cons_append, List.map_cons, run_start, hset, List.append_assoc, ih hnext]
    simp [notices, outcomes]

/-- Once the whole is decided, the notices that are left change nothing. -/
theorem run_decided (n : Nat) {x : Except Failure (List α)} :
    run ⟨notices place n ++ [.wake], trace, ended, noticed, some x⟩ = ⟨trace, x⟩ := by
  induction n generalizing place noticed with
  | zero => exact run_wake
  | succ n ih =>
    rw [notices, List.cons_append, run_notice_of_decided]
    exact ih

theorem results_outcomes {rs : List (Run α)} {as : List α} (h : settle rs = .ok as) :
    results (outcomes rs) = as := by
  have hall := Run.settle_eq_ok_iff.1 h
  clear h
  induction hall with
  | nil => rfl
  | @cons r a rs as hr _ ih =>
    have hhead : (some r.outcome).bind Except.toOption = some a := by rw [hr]; rfl
    simp only [outcomes, results, List.map_cons, List.filterMap_cons, hhead]
    exact congrArg (a :: ·) ih

/-- The notices are heeded in order.  The first of a failure decides, or else the last one. -/
theorem run_notices {before after : List (Run α)} {as : List α}
    (hbefore : settle before = .ok as) (hafter : after ≠ []) :
    run ⟨notices before.length after.length, trace, outcomes (before ++ after), before.length,
        none⟩ = ⟨trace, settle (before ++ after)⟩ := by
  induction after generalizing before as with
  | nil => exact absurd rfl hafter
  | cons r after ih =>
    have hended : (outcomes (before ++ r :: after))[before.length]? = some (some r.outcome) := by
      simp [outcomes]
    cases hr : r.outcome with
    | error e =>
      rw [hr] at hended
      have hwhole : settle (before ++ r :: after) = .error e :=
        Run.settle_eq_error_iff.2 ⟨before, r, after, rfl, ⟨as, hbefore⟩, hr⟩
      rw [List.length_cons, notices, run_notice_of_error hended, run_decided, hwhole]
    | ok a =>
      rw [hr] at hended
      have hnext : settle (before ++ [r]) = .ok (as ++ [a]) :=
        Run.settle_eq_ok_iff.2 (List.rel_append (Run.settle_eq_ok_iff.1 hbefore) (.cons hr .nil))
      have hlength : (before ++ [r]).length = before.length + 1 := List.length_append
      have hsplit : before ++ r :: after = (before ++ [r]) ++ after := by simp
      rw [List.length_cons, notices, run_notice_of_ok hended]
      split
      · rename_i hlast
        have hnil : after = [] := by
          have hcount : before.length + 1 = (before ++ r :: after).length := by
            simpa [outcomes] using hlast
          refine List.eq_nil_of_length_eq_zero ?_
          rw [List.length_append, List.length_cons] at hcount
          omega
        subst hnil
        rw [hnext, results_outcomes hnext]
        exact run_wake
      · rename_i hmore
        have hne : after ≠ [] := by
          rintro rfl
          exact hmore (by simp [outcomes])
        have hrest := ih hnext hne
        rw [hlength, ← hsplit] at hrest
        exact hrest

/-- Gathered runs come to what they come to when they are settled one after another. -/
theorem run_gather (rs : List (Run α)) : (gather rs).run = settleAll rs := by
  cases rs with
  | nil => exact run_wake
  | cons r rs =>
    have hstarts : run ⟨starts 0 (r :: rs) ++ [], [], [] ++ (r :: rs).map fun _ => none, 0, none⟩ =
        run ⟨[] ++ notices 0 (r :: rs).length, [] ++ (r :: rs).flatMap Run.trace,
          [] ++ outcomes (r :: rs), 0, none⟩ := run_starts (r :: rs) rfl
    rw [List.append_nil] at hstarts
    have hsettle : settle ([] : List (Run α)) = .ok [] := rfl
    exact hstarts.trans (run_notices hsettle (List.cons_ne_nil r rs))

end CommitCheck.Loop
