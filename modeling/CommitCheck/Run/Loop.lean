import CommitCheck.Run.Basic

/-!
# Runs in an event loop

An event loop does one thing after another.  What is due waits in a queue, and what came
first is done first.

To gather runs is to queue the start of each of them and to wait for the whole.  A run that
is started goes on to its end, since nothing in it waits, and then a notice of its end is
queued.  The first notice of a failure decides what the whole comes to.  If there is none,
the last notice does, and the results are in the places of their runs.  Whoever waits is
woken in turn.

A failure does not keep the runs behind it from being started: when it is noticed, all the
starts have had their turn.
-/

namespace CommitCheck

/-- What is due in an event loop. -/
inductive Due (α : Type) where
  /-- The run of a place is started. -/
  | start (place : Nat) (run : Run α)
  /-- The end of the run of a place is noticed. -/
  | notice (place : Nat)
  /-- Whoever waits for the whole goes on. -/
  | wake

/-- How many turns can still come of what is due. -/
def Due.turns {α : Type} : Due α → Nat
  | .start _ _ => 3
  | .notice _ => 2
  | .wake => 1

/-- An event loop in which runs are gathered. -/
structure Loop (α : Type) where
  /-- What is due, next first. -/
  queue : List (Due α)
  /-- What has happened, oldest first. -/
  trace : List Event
  /-- What the runs came to, by their places, as far as they have ended. -/
  ended : List (Option (Except Failure α))
  /-- How many ends have been noticed. -/
  noticed : Nat
  /-- What the whole comes to, once that is decided. -/
  whole : Option (Except Failure (List α))

namespace Loop

variable {α : Type}

/-- How many turns can still come. -/
def turns (l : Loop α) : Nat := l.queue.foldr (fun d n => d.turns + n) 0

/-- The loop with something more that is due. -/
def enqueue (l : Loop α) (d : Due α) : Loop α := { l with queue := l.queue ++ [d] }

/-- The loop after a start. -/
def started (l : Loop α) (place : Nat) (run : Run α) : Loop α :=
  { l with
    trace := l.trace ++ run.trace
    ended := l.ended.set place (some run.outcome) }.enqueue (.notice place)

/-- The loop in which the whole is decided. -/
def decided (l : Loop α) (x : Except Failure (List α)) : Loop α :=
  { l with whole := some x }.enqueue .wake

/-- The results of runs that all ended well. -/
def results (ended : List (Option (Except Failure α))) : List α :=
  ended.filterMap fun end? => end?.bind Except.toOption

/-- The loop after a notice. -/
def heeded (l : Loop α) (place : Nat) : Loop α :=
  let l := { l with noticed := l.noticed + 1 }
  if l.whole.isSome then l
  else match l.ended[place]? with
    | some (some (.error e)) => l.decided (.error e)
    | _ => if l.noticed = l.ended.length then l.decided (.ok (results l.ended)) else l

theorem turns_mk_append (queue : List (Due α)) (d : Due α) :
    (queue ++ [d]).foldr (fun d n => d.turns + n) 0 =
      queue.foldr (fun d n => d.turns + n) 0 + d.turns := by
  induction queue with
  | nil => simp
  | cons e queue ih =>
    rw [List.cons_append, List.foldr_cons, ih, List.foldr_cons, Nat.add_assoc]

theorem turns_enqueue (l : Loop α) (d : Due α) : (l.enqueue d).turns = l.turns + d.turns :=
  turns_mk_append l.queue d

theorem turns_heeded_le (l : Loop α) (place : Nat) : (l.heeded place).turns ≤ l.turns + 1 := by
  unfold heeded
  dsimp only
  split
  · exact Nat.le_add_right _ _
  · split
    · exact Nat.le_of_eq (turns_enqueue _ .wake)
    · split
      · exact Nat.le_of_eq (turns_enqueue _ .wake)
      · exact Nat.le_add_right _ _

/-- What a loop comes to when whoever waits is woken.  A loop in which nothing is due any
more before that comes to nothing. -/
def run : Loop α → Run (List α)
  | ⟨[], trace, _, _, _⟩ => ⟨trace, .error .lacking⟩
  | ⟨.wake :: _, trace, _, _, whole⟩ => ⟨trace, whole.getD (.error .lacking)⟩
  | ⟨.start place r :: queue, trace, ended, noticed, whole⟩ =>
      run (started ⟨queue, trace, ended, noticed, whole⟩ place r)
  | ⟨.notice place :: queue, trace, ended, noticed, whole⟩ =>
      run (heeded ⟨queue, trace, ended, noticed, whole⟩ place)
termination_by l => l.turns
decreasing_by
  · show Loop.turns (enqueue _ _) < _
    rw [turns_enqueue]
    simp only [turns, List.foldr_cons, Due.turns]
    omega
  · refine Nat.lt_of_le_of_lt (turns_heeded_le _ place) ?_
    simp only [turns, List.foldr_cons, Due.turns]
    omega

/-- The starts of runs whose places are counted from a number. -/
def starts : Nat → List (Run α) → List (Due α)
  | _, [] => []
  | place, r :: rs => .start place r :: starts (place + 1) rs
termination_by structural _ rs => rs

/-- The loop in which runs are to be gathered.  If there are none, the whole is decided. -/
def gather (rs : List (Run α)) : Loop α :=
  let l : Loop α := ⟨starts 0 rs, [], rs.map fun _ => none, 0, none⟩
  if rs.isEmpty then l.decided (.ok []) else l

end Loop

end CommitCheck
