import CommitCheck.Linter.Session
import Mathlib.Data.List.Basic
import Mathlib.Logic.Function.Basic

/-!
# What a linter holds

Whatever is done with a linter, its rules and observers are told by the operations that
succeeded.

* The names of the rules differ.  They are in the order in which they were first registered,
  and each has the rule and the level of its last registration (`RulesOf`).
* The observers are the added ones in order.  A removal takes the first one left of a name,
  so if a name was removed so many times, so many of its first additions are gone
  (`remaining`).

`Holds` is both together.  Each operation keeps it (`Holds.perform`), and so every list of
operations does (`Holds.after`).
-/

namespace CommitCheck

/-! ## Values that are levels -/

/-- A value equals a level: it is a truth value or a number, and its number is that of the
level. -/
inductive Level.Equals : Value → Level → Prop
  /-- A truth value counts as zero or one. -/
  | bool {b : Bool} {l : Level} : (if b then 1 else 0) = (l.toNat : Int) → Equals (.bool b) l
  /-- A whole number is its own number. -/
  | int (l : Level) : Equals (.int l.toNat) l
  /-- A floating point number counts if it is whole. -/
  | float {x : Binary64} {l : Level} : x.toInt? = some l.toNat → Equals (.float x) l

theorem Level.ofInt?_eq_some_iff {n : Int} {l : Level} : ofInt? n = some l ↔ n = l.toNat := by
  constructor
  · intro h
    unfold ofInt? at h
    split at h
    · obtain rfl := Option.some.inj h
      assumption
    · split at h
      · obtain rfl := Option.some.inj h
        assumption
      · split at h
        · obtain rfl := Option.some.inj h
          assumption
        · cases h
  · rintro rfl
    exact ofInt?_toNat l

theorem Level.equalTo?_eq_some_iff {v : Value} {l : Level} :
    equalTo? v = some l ↔ Equals v l := by
  constructor
  · intro h
    cases v with
    | bool b =>
      have hnumber := ofInt?_eq_some_iff.1 h
      refine .bool ?_
      cases b <;> simpa using hnumber
    | int n =>
      obtain rfl := ofInt?_eq_some_iff.1 h
      exact .int l
    | float x =>
      obtain ⟨n, hn, hl⟩ := Option.bind_eq_some_iff.1 h
      obtain rfl := ofInt?_eq_some_iff.1 hl
      exact .float hn
    | _ => cases h
  · intro h
    cases h with
    | @bool b l hb =>
      refine ofInt?_eq_some_iff.2 ?_
      cases b <;> simpa using hb
    | int => exact ofInt?_toNat l
    | float hx =>
      rw [equalTo?, hx]
      exact ofInt?_toNat l

theorem Level.equalTo?_eq_none_iff {v : Value} : equalTo? v = none ↔ ∀ l, ¬Equals v l := by
  rw [Option.eq_none_iff_forall_ne_some]
  exact forall_congr' fun l => not_congr equalTo?_eq_some_iff

namespace Linter

/-! ## Rules by their registrations -/

section Rules

variable {registered rules : List Registration} {r s : Registration}

/-- The names of registrations. -/
def namesOf (rs : List Registration) : List Text := rs.map Registration.name

/-- A registration is the last one of its name. -/
def IsLast (registered : List Registration) (r : Registration) : Prop :=
  ∃ before after, registered = before ++ r :: after ∧ ∀ s ∈ after, s.name ≠ r.name

/-- Rules are told by the registrations that succeeded. -/
structure RulesOf (registered rules : List Registration) : Prop where
  /-- The names differ. -/
  distinct : (namesOf rules).Nodup
  /-- The names are those that were registered. -/
  known : ∀ name, name ∈ namesOf rules ↔ name ∈ namesOf registered
  /-- They are in the order of their first registrations. -/
  ordered : (namesOf rules).Pairwise fun a b =>
    (namesOf registered).idxOf a < (namesOf registered).idxOf b
  /-- Each rule with its level is that of the last registration of its name. -/
  latest : ∀ r ∈ rules, IsLast registered r

theorem namesOf_insertRule_of_mem (h : r.name ∈ namesOf rules) :
    namesOf (insertRule r rules) = namesOf rules := by
  induction rules with
  | nil => exact absurd h List.not_mem_nil
  | cons s rules ih =>
    unfold insertRule
    split
    · rename_i hs
      simp [namesOf, hs]
    · rename_i hs
      have hrest : r.name ∈ namesOf rules := (List.mem_cons.1 h).resolve_left (Ne.symm hs)
      exact congrArg (s.name :: ·) (ih hrest)

theorem namesOf_insertRule_of_not_mem (h : r.name ∉ namesOf rules) :
    namesOf (insertRule r rules) = namesOf rules ++ [r.name] := by
  induction rules with
  | nil => rfl
  | cons s rules ih =>
    obtain ⟨hs, hrest⟩ := not_or.1 (mt List.mem_cons.2 h)
    rw [insertRule, if_neg (Ne.symm hs)]
    exact congrArg (s.name :: ·) (ih hrest)

/-- A rule after an insertion is the inserted one, or one from before of another name. -/
theorem mem_insertRule (hdistinct : (namesOf rules).Nodup) :
    s ∈ insertRule r rules ↔ s = r ∨ s ∈ rules ∧ s.name ≠ r.name := by
  induction rules with
  | nil => simp [insertRule]
  | cons t rules ih =>
    obtain ⟨ht, hrest⟩ := List.nodup_cons.1 hdistinct
    unfold insertRule
    split
    · rename_i hname
      have hother (hs : s ∈ rules) : s.name ≠ r.name :=
        fun heq => ht ((hname.trans heq.symm) ▸ List.mem_map_of_mem hs)
      constructor
      · intro hs
        rcases List.mem_cons.1 hs with rfl | hs
        · exact .inl rfl
        · exact .inr ⟨List.mem_cons_of_mem t hs, hother hs⟩
      · rintro (rfl | ⟨hs, hne⟩)
        · exact List.mem_cons_self
        · rcases List.mem_cons.1 hs with rfl | hs
          · exact absurd hname hne
          · exact List.mem_cons_of_mem r hs
    · rename_i hname
      rw [List.mem_cons, ih hrest, List.mem_cons]
      constructor
      · rintro (rfl | rfl | ⟨hs, hne⟩)
        · exact .inr ⟨.inl rfl, hname⟩
        · exact .inl rfl
        · exact .inr ⟨.inr hs, hne⟩
      · rintro (rfl | ⟨rfl | hs, hne⟩)
        · exact .inr (.inl rfl)
        · exact .inl rfl
        · exact .inr (.inr ⟨hs, hne⟩)

theorem IsLast.append (h : IsLast registered s) (hne : s.name ≠ r.name) :
    IsLast (registered ++ [r]) s := by
  obtain ⟨before, after, rfl, hafter⟩ := h
  refine ⟨before, after ++ [r], by simp, fun t ht => ?_⟩
  rcases List.mem_append.1 ht with ht | ht
  · exact hafter t ht
  · rw [List.mem_singleton.1 ht]
    exact Ne.symm hne

theorem rulesOf_nil : RulesOf [] [] where
  distinct := List.nodup_nil
  known _ := Iff.rfl
  ordered := .nil
  latest _ h := absurd h List.not_mem_nil

/-- One more registration puts a new name at the end and keeps the place of a known one. -/
theorem RulesOf.insert (h : RulesOf registered rules) (r : Registration) :
    RulesOf (registered ++ [r]) (insertRule r rules) := by
  have hlatest : ∀ s ∈ insertRule r rules, IsLast (registered ++ [r]) s := by
    intro s hs
    rcases (mem_insertRule h.distinct).1 hs with rfl | ⟨hs, hne⟩
    · exact ⟨registered, [], rfl, fun t ht => absurd ht List.not_mem_nil⟩
    · exact (h.latest s hs).append hne
  have hnames : namesOf (registered ++ [r]) = namesOf registered ++ [r.name] := List.map_append
  -- The places of names that were there stay what they were.
  have hplace {a : Text} (ha : a ∈ namesOf rules) :
      (namesOf (registered ++ [r])).idxOf a = (namesOf registered).idxOf a := by
    rw [hnames, List.idxOf_append_of_mem ((h.known a).1 ha)]
  have hordered : (namesOf rules).Pairwise fun a b =>
      (namesOf (registered ++ [r])).idxOf a < (namesOf (registered ++ [r])).idxOf b :=
    h.ordered.imp_of_mem fun ha hb hab => by rwa [hplace ha, hplace hb]
  by_cases hmem : r.name ∈ namesOf rules
  · have hkept := namesOf_insertRule_of_mem hmem
    refine ⟨hkept ▸ h.distinct, fun name => ?_, hkept ▸ hordered, hlatest⟩
    rw [hkept, hnames, List.mem_append, List.mem_singleton, h.known]
    refine ⟨.inl, fun hname => hname.elim id ?_⟩
    rintro rfl
    exact (h.known _).1 hmem
  · have hgrown := namesOf_insertRule_of_not_mem hmem
    refine ⟨?_, fun name => ?_, ?_, hlatest⟩
    · rw [hgrown]
      refine List.nodup_append.2 ⟨h.distinct,
        List.nodup_cons.2 ⟨List.not_mem_nil, List.nodup_nil⟩, fun a ha b hb => ?_⟩
      rw [List.mem_singleton.1 hb]
      exact ne_of_mem_of_not_mem ha hmem
    · rw [hgrown, hnames, List.mem_append, List.mem_append, h.known]
    · rw [hgrown]
      refine List.pairwise_append.2 ⟨hordered, List.pairwise_singleton _ _, fun a ha b hb => ?_⟩
      obtain rfl := List.mem_singleton.1 hb
      have hnew : r.name ∉ namesOf registered := mt (h.known _).2 hmem
      rw [hplace ha, hnames, List.idxOf_append_of_notMem hnew]
      exact Nat.lt_add_right _ (List.idxOf_lt_length_of_mem ((h.known a).1 ha))

end Rules

/-! ## Observers by additions and removals -/

section Observers

variable {gone : Text → Nat} {added : List Observer} {name : Text}

/-- The observers that are left of some if so many of each name are gone, the first ones of
the name. -/
def remaining (gone : Text → Nat) : List Observer → List Observer
  | [] => []
  | o :: os =>
      if gone o.name = 0 then o :: remaining gone os
      else remaining (Function.update gone o.name (gone o.name - 1)) os
termination_by structural os => os

/-- How many of some observers have a name. -/
def countOf (name : Text) (os : List Observer) : Nat := os.countP fun o => o.name = name

/-- The counts with one more of a name. -/
def oneMore (gone : Text → Nat) (name : Text) : Text → Nat :=
  Function.update gone name (gone name + 1)

theorem remaining_cons_of_zero {o : Observer} (h : gone o.name = 0) :
    remaining gone (o :: added) = o :: remaining gone added := by
  rw [remaining, if_pos h]

theorem remaining_cons_of_pos {o : Observer} (h : gone o.name ≠ 0) :
    remaining gone (o :: added) =
      remaining (Function.update gone o.name (gone o.name - 1)) added := by
  rw [remaining, if_neg h]

/-- One more observer stays, as long as no more are gone than there were. -/
theorem remaining_append (o : Observer) (h : gone o.name ≤ countOf o.name added) :
    remaining gone (added ++ [o]) = remaining gone added ++ [o] := by
  induction added generalizing gone with
  | nil =>
    have hzero : gone o.name = 0 := Nat.le_zero.1 h
    rw [List.nil_append, remaining_cons_of_zero hzero]
    rfl
  | cons a added ih =>
    by_cases hzero : gone a.name = 0
    · have hle : gone o.name ≤ countOf o.name added := by
        by_cases hname : a.name = o.name
        · rw [← hname, hzero]
          exact Nat.zero_le _
        · simpa [countOf, hname] using h
      rw [List.cons_append, remaining_cons_of_zero hzero, remaining_cons_of_zero hzero, ih hle]
      rfl
    · rw [List.cons_append, remaining_cons_of_pos hzero, remaining_cons_of_pos hzero]
      refine ih ?_
      by_cases hname : a.name = o.name
      · have hcount : countOf o.name (a :: added) = countOf o.name added + 1 := by
          simp [countOf, hname]
        rw [hname, Function.update_self]
        omega
      · rw [Function.update_of_ne (Ne.symm hname)]
        simpa [countOf, hname] using h

theorem update_oneMore_self :
    Function.update (oneMore gone name) name (oneMore gone name name - 1) = gone := by
  rw [oneMore, Function.update_self, Function.update_idem, Nat.add_sub_cancel,
    Function.update_eq_self]

/-- A removal of a name and one that was there before it can change places. -/
theorem update_oneMore_comm {other : Text} (h : gone other ≠ 0) :
    Function.update (oneMore gone name) other (oneMore gone name other - 1) =
      oneMore (Function.update gone other (gone other - 1)) name := by
  by_cases hname : other = name
  · subst hname
    simp only [oneMore, Function.update_self, Function.update_idem]
    congr 1
    omega
  · rw [oneMore, Function.update_of_ne hname, oneMore, Function.update_of_ne (Ne.symm hname),
      Function.update_comm hname]

/-- The first observer of a name that is left is the one to be removed next. -/
theorem remove?_remaining {os : List Observer}
    (h : Observer.remove? name (remaining gone added) = some os) :
    os = remaining (oneMore gone name) added ∧ gone name < countOf name added := by
  induction added generalizing gone os with
  | nil => cases h
  | cons a added ih =>
    by_cases hzero : gone a.name = 0
    · rw [remaining_cons_of_zero hzero] at h
      by_cases hname : a.name = name
      · subst hname
        rw [Observer.remove?, if_pos rfl] at h
        obtain rfl := Option.some.inj h
        have hmore : oneMore gone a.name a.name ≠ 0 := by
          rw [oneMore, Function.update_self]
          exact Nat.succ_ne_zero _
        refine ⟨?_, by simp [countOf, hzero]⟩
        rw [remaining_cons_of_pos hmore, update_oneMore_self]
      · rw [Observer.remove?, if_neg hname] at h
        obtain ⟨rest, hrest, rfl⟩ := Option.map_eq_some_iff.1 h
        obtain ⟨rfl, hlt⟩ := ih hrest
        have hsame : oneMore gone name a.name = 0 := by rwa [oneMore, Function.update_of_ne hname]
        exact ⟨(remaining_cons_of_zero hsame).symm, by simpa [countOf, hname] using hlt⟩
    · rw [remaining_cons_of_pos hzero] at h
      obtain ⟨rfl, hlt⟩ := ih h
      have hmore : oneMore gone name a.name ≠ 0 := by
        by_cases hname : a.name = name
        · rw [hname, oneMore, Function.update_self]
          exact Nat.succ_ne_zero _
        · rwa [oneMore, Function.update_of_ne hname]
      refine ⟨?_, ?_⟩
      · rw [remaining_cons_of_pos hmore, update_oneMore_comm hzero]
      · by_cases hname : a.name = name
        · subst hname
          rw [Function.update_self] at hlt
          simp only [countOf, List.countP_cons, decide_true, if_true] at hlt ⊢
          omega
        · rw [Function.update_of_ne (Ne.symm hname)] at hlt
          simpa [countOf, hname] using hlt

theorem remove?_eq_none_iff {os : List Observer} :
    Observer.remove? name os = none ↔ ∀ o ∈ os, o.name ≠ name := by
  induction os with
  | nil => simp [Observer.remove?]
  | cons o os ih =>
    by_cases hname : o.name = name
    · simp [Observer.remove?, hname]
    · simp [Observer.remove?, hname, ih]

end Observers

/-! ## Operations -/

namespace Operation

/-- The registration that an operation makes, if it makes one. -/
def registration? : Operation → Option Registration
  | .register name rule level => (Level.equalTo? level).map fun l => ⟨name, rule, l⟩
  | _ => none

/-- The observer that an operation adds, if it adds one. -/
def observer? : Operation → Option Observer
  | .addObserver o => some o
  | _ => none

/-- Whether an operation removes an observer of a name. -/
def isRemoval (name : Text) : Operation → Bool
  | .removeObserver n => n = name
  | _ => false

/-- The registrations among operations. -/
def registrations (ops : List Operation) : List Registration := ops.filterMap registration?

/-- The observers that operations add. -/
def additions (ops : List Operation) : List Observer := ops.filterMap observer?

/-- How often operations remove an observer of a name. -/
def removals (ops : List Operation) (name : Text) : Nat := ops.countP (isRemoval name)

end Operation

open Operation (registrations additions removals)

theorem registrations_append (ops ops' : List Operation) :
    registrations (ops ++ ops') = registrations ops ++ registrations ops' := List.filterMap_append

theorem additions_append (ops ops' : List Operation) :
    additions (ops ++ ops') = additions ops ++ additions ops' := List.filterMap_append

theorem removals_append (ops ops' : List Operation) (name : Text) :
    removals (ops ++ ops') name = removals ops name + removals ops' name := List.countP_append

section

variable {ops ops' : List Operation}

theorem registrations_append_of_nil (h : registrations ops' = []) :
    registrations (ops ++ ops') = registrations ops := by
  rw [registrations_append, h, List.append_nil]

theorem additions_append_of_nil (h : additions ops' = []) :
    additions (ops ++ ops') = additions ops := by
  rw [additions_append, h, List.append_nil]

theorem removals_append_of_zero (h : ∀ name, removals ops' name = 0) :
    removals (ops ++ ops') = removals ops := by
  funext name
  rw [removals_append, h, Nat.add_zero]

end

theorem removals_append_removeObserver (ops : List Operation) (name : Text) :
    removals (ops ++ [.removeObserver name]) = oneMore (removals ops) name := by
  funext n
  rw [removals_append]
  by_cases hn : n = name
  · subst hn
    simp [removals, oneMore, Operation.isRemoval]
  · simp [removals, oneMore, Operation.isRemoval, hn, Ne.symm hn]

variable {l : Linter} {done : List Operation}

/-- A linter holds what some operations, each of which succeeded, made of an empty one. -/
structure Holds (done : List Operation) (l : Linter) : Prop where
  /-- The rules are told by the registrations. -/
  rules : RulesOf (registrations done) l.rules
  /-- The observers are the added ones without those that were removed. -/
  observers : l.observers = remaining (removals done) (additions done)
  /-- No more were removed than added. -/
  enough : ∀ name, removals done name ≤ countOf name (additions done)

namespace Holds

theorem ofEmpty : Holds [] empty := ⟨rulesOf_nil, rfl, fun _ => Nat.le_refl _⟩

theorem register (h : Holds done l) {name : Text} {rule : Rule} {level : Value} {k : Level}
    (hlevel : Level.equalTo? level = some k) :
    Holds (done ++ [.register name rule level]) (l.register name rule k) := by
  have hr : registrations [.register name rule level] = [⟨name, rule, k⟩] := by
    simp [registrations, Operation.registration?, hlevel]
  have ha : additions (done ++ [.register name rule level]) = additions done :=
    additions_append_of_nil rfl
  have hg : removals (done ++ [.register name rule level]) = removals done :=
    removals_append_of_zero fun _ => rfl
  refine ⟨?_, ?_, ?_⟩
  · rw [registrations_append, hr]
    exact h.rules.insert ⟨name, rule, k⟩
  · rw [ha, hg]
    exact h.observers
  · rw [ha, hg]
    exact h.enough

theorem addObserver (h : Holds done l) (o : Observer) :
    Holds (done ++ [.addObserver o]) (l.addObserver o) := by
  have hr : registrations (done ++ [.addObserver o]) = registrations done :=
    registrations_append_of_nil rfl
  have ha : additions (done ++ [.addObserver o]) = additions done ++ [o] := additions_append _ _
  have hg : removals (done ++ [.addObserver o]) = removals done :=
    removals_append_of_zero fun _ => rfl
  refine ⟨?_, ?_, fun n => ?_⟩
  · rw [hr]
    exact h.rules
  · rw [ha, hg, remaining_append o (h.enough o.name), ← h.observers]
    rfl
  · rw [ha, hg, countOf, List.countP_append]
    exact Nat.le_add_right_of_le (h.enough n)

theorem removeObserver (h : Holds done l) {name : Text} {os : List Observer}
    (hremove : Observer.remove? name l.observers = some os) :
    Holds (done ++ [.removeObserver name]) { l with observers := os } := by
  obtain ⟨hos, hlt⟩ := remove?_remaining (h.observers ▸ hremove)
  have hr : registrations (done ++ [.removeObserver name]) = registrations done :=
    registrations_append_of_nil rfl
  have ha : additions (done ++ [.removeObserver name]) = additions done :=
    additions_append_of_nil rfl
  have hg := removals_append_removeObserver done name
  refine ⟨?_, ?_, fun n => ?_⟩
  · rw [hr]
    exact h.rules
  · rw [ha, hg]
    exact hos
  · rw [ha, hg]
    by_cases hn : n = name
    · subst hn
      rw [oneMore, Function.update_self]
      exact hlt
    · rw [oneMore, Function.update_of_ne hn]
      exact h.enough n

/-- To lint is none of what a linter is told by. -/
theorem append_idle (h : Holds done l) {ops : List Operation}
    (hr : registrations ops = []) (ha : additions ops = []) (hg : ∀ name, removals ops name = 0) :
    Holds (done ++ ops) l := by
  refine ⟨?_, ?_, ?_⟩
  · rw [registrations_append_of_nil hr]
    exact h.rules
  · rw [additions_append_of_nil ha, removals_append_of_zero hg]
    exact h.observers
  · rw [additions_append_of_nil ha, removals_append_of_zero hg]
    exact h.enough

end Holds

/-! ## One operation -/

theorem perform_register_of_some {name : Text} {rule : Rule} {level : Value} {k : Level}
    (h : Level.equalTo? level = some k) :
    l.perform (.register name rule level) = (l.register name rule k, Run.pure .done) := by
  simp [perform, registerAt, h, attempted]

theorem perform_register_of_none {name : Text} {rule : Rule} {level : Value}
    (h : Level.equalTo? level = none) :
    l.perform (.register name rule level) = (l, Run.fail .badValue) := by
  simp [perform, registerAt, h, attempted]

theorem perform_removeObserver_of_some {name : Text} {os : List Observer}
    (h : Observer.remove? name l.observers = some os) :
    l.perform (.removeObserver name) = ({ l with observers := os }, Run.pure .done) := by
  simp [perform, Linter.removeObserver, h, attempted]

theorem perform_removeObserver_of_none {name : Text}
    (h : Observer.remove? name l.observers = none) :
    l.perform (.removeObserver name) = (l, Run.fail .badValue) := by
  simp [perform, Linter.removeObserver, h, attempted]

theorem ifDone_of_ok {op : Operation} {l' : Linter} {a : Answer}
    (h : l.perform op = (l', Run.pure a)) : l.ifDone op = [op] := by
  rw [ifDone, h]
  rfl

theorem ifDone_of_fail {op : Operation} {l' : Linter} {e : Failure}
    (h : l.perform op = (l', Run.fail e)) : l.ifDone op = [] := by
  rw [ifDone, h]
  rfl

theorem ifDone_eq_or (l : Linter) (op : Operation) : l.ifDone op = [op] ∨ l.ifDone op = [] := by
  unfold ifDone
  split
  · exact .inl rfl
  · exact .inr rfl

/-- An operation that leaves the linter as it is, and is not of those that change it. -/
theorem Holds.perform_idle (h : Holds done l) {op : Operation}
    (hr : registrations [op] = []) (ha : additions [op] = [])
    (hg : ∀ name, removals [op] name = 0) : Holds (done ++ l.ifDone op) l := by
  rcases ifDone_eq_or l op with hdone | hdone
  · rw [hdone]
    exact h.append_idle hr ha hg
  · rw [hdone, List.append_nil]
    exact h

/-- Each operation, whether it succeeds or not, leaves a linter that holds what was done. -/
theorem Holds.perform (h : Holds done l) (op : Operation) :
    Holds (done ++ l.ifDone op) (l.perform op).1 := by
  cases op with
  | register name rule level =>
    cases hlevel : Level.equalTo? level with
    | none =>
      have hperform : l.perform (.register name rule level) = (l, Run.fail .badValue) :=
        perform_register_of_none hlevel
      rw [ifDone_of_fail hperform, hperform, List.append_nil]
      exact h
    | some k =>
      have hperform :
          l.perform (.register name rule level) = (l.register name rule k, Run.pure .done) :=
        perform_register_of_some hlevel
      rw [ifDone_of_ok hperform, hperform]
      exact h.register hlevel
  | addObserver o => exact h.addObserver o
  | removeObserver name =>
    cases hremove : Observer.remove? name l.observers with
    | none =>
      have hperform := perform_removeObserver_of_none hremove
      rw [ifDone_of_fail hperform, hperform, List.append_nil]
      exact h
    | some os =>
      have hperform := perform_removeObserver_of_some hremove
      rw [ifDone_of_ok hperform, hperform]
      exact h.removeObserver hremove
  | lint m sha => exact h.perform_idle rfl rfl fun _ => rfl
  | lintMany commits => exact h.perform_idle rfl rfl fun _ => rfl

/-- So does every list of operations. -/
theorem Holds.after (h : Holds done l) (ops : List Operation) :
    Holds (done ++ l.carriedOut ops) (l.after ops) := by
  induction ops generalizing l done with
  | nil =>
    show Holds (done ++ []) l
    rw [List.append_nil]
    exact h
  | cons op ops ih =>
    rw [carriedOut, ← List.append_assoc]
    exact ih (h.perform op)

/-! ## Operations that fail or change nothing -/

theorem perform_register_eq_fail_iff {name : Text} {rule : Rule} {level : Value} :
    l.perform (.register name rule level) = (l, Run.fail .badValue) ↔
      ∀ k, ¬Level.Equals level k := by
  rw [← Level.equalTo?_eq_none_iff]
  refine ⟨fun hfail => ?_, perform_register_of_none⟩
  cases hlevel : Level.equalTo? level with
  | none => rfl
  | some k =>
    rw [perform_register_of_some hlevel] at hfail
    cases congrArg (fun p => p.2.outcome) hfail

theorem perform_removeObserver_eq_fail_iff {name : Text} :
    l.perform (.removeObserver name) = (l, Run.fail .badValue) ↔
      ∀ o ∈ l.observers, o.name ≠ name := by
  rw [← remove?_eq_none_iff]
  refine ⟨fun hfail => ?_, perform_removeObserver_of_none⟩
  cases hremove : Observer.remove? name l.observers with
  | none => rfl
  | some os =>
    rw [perform_removeObserver_of_some hremove] at hfail
    cases congrArg (fun p => p.2.outcome) hfail

/-- Whatever is done with a linter, it holds what the operations that succeeded made of it.  A
value that is no level and an observer that is not there are refused and change nothing, and
to lint changes nothing either. -/
theorem holds_after_operations (ops : List Operation) :
    Holds (carriedOut empty ops) (after empty ops) ∧
    (∀ l : Linter, ∀ name rule level,
      l.perform (.register name rule level) = (l, Run.fail .badValue) ↔
        ∀ k, ¬Level.Equals level k) ∧
    (∀ l : Linter, ∀ name, l.perform (.removeObserver name) = (l, Run.fail .badValue) ↔
      ∀ o ∈ l.observers, o.name ≠ name) ∧
    ∀ l : Linter, (∀ m sha, (l.perform (.lint m sha)).1 = l) ∧
      ∀ commits, (l.perform (.lintMany commits)).1 = l :=
  ⟨Holds.ofEmpty.after ops, fun _ _ _ _ => perform_register_eq_fail_iff,
    fun _ _ => perform_removeObserver_eq_fail_iff, fun _ => ⟨fun _ _ => rfl, fun _ => rfl⟩⟩

end Linter

end CommitCheck
