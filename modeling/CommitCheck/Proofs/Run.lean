import CommitCheck.Run.Basic
import Mathlib.Data.List.Forall2

/-!
# Laws of runs

What a run of several steps comes to, by what its steps come to.  The laws of `bind` are
equations where the first step is known to succeed or to fail, and `bind_eq_ok_iff` tells when
the whole succeeds.  `Result` has the same for computations that leave no trace.

A loop over a list whose steps all succeed has the traces of its steps one after another
(`each_of_ok`).  Runs that are settled together succeed if each of them does, and otherwise
fail as the first of them that fails (`settle_eq_ok_iff`, `settle_eq_error_iff`).

What holds of the events of each step holds of all events (`forall_mem_trace_bind`).  So steps
that send no request make a run that is offline (`IsOffline.bind`), and steps that only print make
a run that does nothing else (`OnlyPrints.bind`).
-/

namespace CommitCheck

/-! ## Lists related item by item -/

theorem exists_forall₂ {α β : Type} {P : α → β → Prop} {as : List α} (h : ∀ a ∈ as, ∃ b, P a b) :
    ∃ bs, List.Forall₂ P as bs := by
  induction as with
  | nil => exact ⟨[], .nil⟩
  | cons a as ih =>
    obtain ⟨b, hb⟩ := h a List.mem_cons_self
    obtain ⟨bs, hbs⟩ := ih fun x hx => h x (List.mem_cons_of_mem a hx)
    exact ⟨b :: bs, .cons hb hbs⟩

theorem exists_mem_of_forall₂ {α β : Type} {P : α → β → Prop} {as : List α} {bs : List β}
    (h : List.Forall₂ P as bs) : ∀ b ∈ bs, ∃ a ∈ as, P a b := by
  induction h with
  | nil => exact fun b hb => absurd hb List.not_mem_nil
  | @cons a b as bs hab _ ih =>
    intro x hx
    rcases List.mem_cons.1 hx with rfl | hx
    · exact ⟨a, List.mem_cons_self, hab⟩
    · obtain ⟨y, hy, hyx⟩ := ih x hx
      exact ⟨y, List.mem_cons_of_mem a hy, hyx⟩

theorem exists_forall₂_iff {α β : Type} {P : α → β → Prop} {as : List α} :
    (∃ bs, List.Forall₂ P as bs) ↔ ∀ a ∈ as, ∃ b, P a b := by
  refine ⟨?_, exists_forall₂⟩
  rintro ⟨bs, h⟩ a ha
  obtain ⟨b, -, hb⟩ := exists_mem_of_forall₂ h.flip a ha
  exact ⟨b, hb⟩

/-! ## Results -/

namespace Result

variable {ε α β : Type}

theorem bind_eq_ok_iff {x : Except ε α} {f : α → Except ε β} {b : β} :
    (x >>= f) = .ok b ↔ ∃ a, x = .ok a ∧ f a = .ok b := by
  cases x with
  | ok a =>
    change f a = .ok b ↔ _
    simp
  | error e =>
    change (.error e : Except ε β) = .ok b ↔ _
    simp

theorem map_eq_ok_iff {x : Except ε α} {f : α → β} {b : β} :
    x.map f = .ok b ↔ ∃ a, x = .ok a ∧ f a = b := by
  cases x <;> simp [Except.map]

theorem map_eq_error_iff {x : Except ε α} {f : α → β} {e : ε} :
    x.map f = .error e ↔ x = .error e := by
  cases x <;> simp [Except.map]

/-- What holds of the errors of two steps holds of those of both. -/
theorem of_bind_eq_error {P : ε → Prop} {x : Except ε α} {f : α → Except ε β} {e : ε}
    (h : (x >>= f) = .error e) (hx : ∀ e, x = .error e → P e)
    (hf : ∀ a e, f a = .error e → P e) : P e := by
  cases x with
  | ok a => exact hf a e h
  | error e' =>
    obtain rfl := Except.error.inj h
    exact hx _ rfl

end Result

namespace Run

variable {α β : Type}

theorem eq_mk_iff {r : Run α} {trace : List Event} {outcome : Except Failure α} :
    r = ⟨trace, outcome⟩ ↔ r.trace = trace ∧ r.outcome = outcome := by
  rw [← Run.mk.injEq]

/-! ## One step after another -/

theorem bind_of_ok {r : Run α} {f : α → Run β} {a : α} (h : r.outcome = .ok a) :
    (r >>= f) = ⟨r.trace ++ (f a).trace, (f a).outcome⟩ := by
  cases r with
  | mk trace outcome =>
    cases h
    rfl

theorem bind_of_error {r : Run α} {f : α → Run β} {e : Failure} (h : r.outcome = .error e) :
    (r >>= f) = ⟨r.trace, .error e⟩ := by
  cases r with
  | mk trace outcome =>
    cases h
    rfl

theorem outcome_bind (r : Run α) (f : α → Run β) :
    (r >>= f).outcome = (r.outcome >>= fun a => (f a).outcome) := by
  cases h : r.outcome with
  | ok a => rw [bind_of_ok h]; rfl
  | error e => rw [bind_of_error h]; rfl

/-- A run whose result is put into another form at the end. -/
theorem bind_pure_eq {r : Run α} {f : α → β} :
    (r >>= fun a => Pure.pure (f a)) = ⟨r.trace, r.outcome.map f⟩ := by
  cases h : r.outcome with
  | ok a =>
    rw [bind_of_ok h, pure_eq, List.append_nil]
    rfl
  | error e =>
    rw [bind_of_error h]
    rfl

/-- Two steps succeed if both do. -/
theorem bind_eq_ok_iff {r : Run α} {f : α → Run β} {b : β} :
    (r >>= f).outcome = .ok b ↔ ∃ a, r.outcome = .ok a ∧ (f a).outcome = .ok b := by
  cases h : r.outcome with
  | ok a =>
    rw [bind_of_ok h]
    simp
  | error e =>
    rw [bind_of_error h]
    simp

theorem bind_ofExcept_ok {f : α → Run β} {a : α} : (ofExcept (.ok a) >>= f) = f a := rfl

theorem orElse_of_ok {r : Run α} {f : Failure → Run α} {a : α} (h : r.outcome = .ok a) :
    r.orElse f = r := by
  cases r with
  | mk trace outcome =>
    cases h
    rfl

theorem orElse_of_error {r : Run α} {f : Failure → Run α} {e : Failure} (h : r.outcome = .error e) :
    r.orElse f = ⟨r.trace ++ (f e).trace, (f e).outcome⟩ := by
  cases r with
  | mk trace outcome =>
    cases h
    rfl

/-! ## Loops -/

theorem each_cons {f : α → Run Unit} {a : α} {as : List α} :
    each f (a :: as) = (f a >>= fun _ => each f as) := rfl

/-- A loop whose steps all succeed. -/
theorem each_of_ok {f : α → Run Unit} {as : List α} (h : ∀ a ∈ as, (f a).outcome = .ok ()) :
    each f as = ⟨as.flatMap fun a => (f a).trace, .ok ()⟩ := by
  induction as with
  | nil => rfl
  | cons a as ih =>
    rw [each_cons, bind_of_ok (h a List.mem_cons_self),
      ih fun b hb => h b (List.mem_cons_of_mem a hb)]
    rfl

/-- A loop whose steps leave one event each. -/
theorem each_of_eq {f : α → Run Unit} {g : α → Event} {as : List α}
    (h : ∀ a ∈ as, f a = ⟨[g a], .ok ()⟩) : each f as = ⟨as.map g, .ok ()⟩ := by
  induction as with
  | nil => rfl
  | cons a as ih =>
    rw [each_cons, h a List.mem_cons_self, ih fun b hb => h b (List.mem_cons_of_mem a hb)]
    rfl

/-! ## Runs settled together -/

theorem settle_cons_of_ok {r : Run α} {rs : List (Run α)} {a : α} (h : r.outcome = .ok a) :
    settle (r :: rs) = (settle rs).map (a :: ·) := by
  simp [settle, h]

theorem settle_cons_of_error {r : Run α} {rs : List (Run α)} {e : Failure}
    (h : r.outcome = .error e) : settle (r :: rs) = .error e := by
  simp [settle, h]

/-- Runs with the same outcomes come to the same when they are settled together. -/
theorem settle_map_congr {γ : Type} {f g : γ → Run α} {cs : List γ}
    (h : ∀ c ∈ cs, (f c).outcome = (g c).outcome) : settle (cs.map f) = settle (cs.map g) := by
  induction cs with
  | nil => rfl
  | cons c cs ih =>
    rw [List.map_cons, List.map_cons, settle, settle, h c List.mem_cons_self,
      ih fun d hd => h d (List.mem_cons_of_mem c hd)]

/-- Runs settled together succeed if each of them does. -/
theorem settle_eq_ok_iff {rs : List (Run α)} {as : List α} :
    settle rs = .ok as ↔ List.Forall₂ (fun r a => r.outcome = .ok a) rs as := by
  induction rs generalizing as with
  | nil => cases as <;> simp [settle]
  | cons r rs ih =>
    cases hr : r.outcome with
    | error e =>
      rw [settle_cons_of_error hr]
      cases as <;> simp [hr]
    | ok a =>
      rw [settle_cons_of_ok hr]
      cases as with
      | nil => cases hs : settle rs <;> simp [Except.map]
      | cons b bs =>
        rw [List.forall₂_cons, hr, ← ih]
        cases hs : settle rs <;> simp [Except.map]

/-- Runs settled together fail as the first of them that fails. -/
theorem settle_eq_error_iff {rs : List (Run α)} {e : Failure} :
    settle rs = .error e ↔
      ∃ before r after, rs = before ++ r :: after ∧ (∃ as, settle before = .ok as) ∧
        r.outcome = .error e := by
  induction rs with
  | nil => simp [settle]
  | cons r rs ih =>
    simp only [List.cons_eq_append_iff]
    cases hr : r.outcome with
    | error e' =>
      rw [settle_cons_of_error hr]
      constructor
      · intro h
        obtain rfl := Except.error.inj h
        exact ⟨[], r, rs, .inl ⟨rfl, rfl⟩, ⟨[], rfl⟩, hr⟩
      · rintro ⟨before, x, after, ⟨rfl, hsplit⟩ | ⟨before, rfl, -⟩, ⟨as, hok⟩, hx⟩
        · obtain ⟨rfl, -⟩ := List.cons.inj hsplit
          exact congrArg Except.error (Except.error.inj (hr.symm.trans hx))
        · rw [settle_cons_of_error hr] at hok
          cases hok
    | ok a =>
      rw [settle_cons_of_ok hr, Result.map_eq_error_iff, ih]
      constructor
      · rintro ⟨before, x, after, rfl, ⟨as, hok⟩, hx⟩
        refine ⟨r :: before, x, after, .inr ⟨before, rfl, rfl⟩, ⟨a :: as, ?_⟩, hx⟩
        rw [settle_cons_of_ok hr, hok]
        rfl
      · rintro ⟨before, x, after, ⟨rfl, hsplit⟩ | ⟨before, rfl, rfl⟩, ⟨as, hok⟩, hx⟩
        · obtain ⟨rfl, -⟩ := List.cons.inj hsplit
          cases hr.symm.trans hx
        · rw [settle_cons_of_ok hr] at hok
          obtain ⟨as', hb, -⟩ := Result.map_eq_ok_iff.1 hok
          exact ⟨before, x, after, rfl, ⟨as', hb⟩, hx⟩

/-! ## What runs leave -/

/-- What holds of the events of two steps holds of those of both.  The second step may rely on the
result of the first. -/
theorem forall_mem_trace_bind_of_ok {P : Event → Prop} {r : Run α} {f : α → Run β}
    (hr : ∀ e ∈ r.trace, P e) (hf : ∀ a, r.outcome = .ok a → ∀ e ∈ (f a).trace, P e) :
    ∀ e ∈ (r >>= f).trace, P e := by
  cases h : r.outcome with
  | error e =>
    rw [bind_of_error h]
    exact hr
  | ok a =>
    rw [bind_of_ok h]
    exact List.forall_mem_append.2 ⟨hr, hf a h⟩

theorem forall_mem_trace_bind {P : Event → Prop} {r : Run α} {f : α → Run β}
    (hr : ∀ e ∈ r.trace, P e) (hf : ∀ a, ∀ e ∈ (f a).trace, P e) : ∀ e ∈ (r >>= f).trace, P e :=
  forall_mem_trace_bind_of_ok hr fun a _ => hf a

/-- What holds of the events of each step of a loop holds of those of the loop. -/
theorem forall_mem_trace_each {P : Event → Prop} {f : α → Run Unit} {as : List α}
    (h : ∀ a ∈ as, ∀ e ∈ (f a).trace, P e) : ∀ e ∈ (each f as).trace, P e := by
  induction as with
  | nil => exact List.forall_mem_nil _
  | cons a as ih =>
    rw [each_cons]
    exact forall_mem_trace_bind (h a List.mem_cons_self) fun _ =>
      ih fun b hb => h b (List.mem_cons_of_mem a hb)

/-- No request is sent. -/
def IsOffline (r : Run α) : Prop := ∀ q, .requested q ∉ r.trace

theorem isOffline_iff {r : Run α} : r.IsOffline ↔ ∀ e ∈ r.trace, ∀ q, e ≠ .requested q :=
  ⟨fun h _ he q heq => h q (heq ▸ he), fun h q hmem => h _ hmem q rfl⟩

theorem isOffline_nil (x : Except Failure α) : IsOffline (⟨[], x⟩ : Run α) :=
  fun _ => List.not_mem_nil

theorem isOffline_record {e : Event} (h : ∀ q, e ≠ .requested q) : (record e).IsOffline :=
  fun q hmem => h q (List.mem_singleton.1 hmem).symm

theorem IsOffline.bind_of_ok {r : Run α} {f : α → Run β} (hr : r.IsOffline)
    (hf : ∀ a, r.outcome = .ok a → (f a).IsOffline) : (r >>= f).IsOffline :=
  isOffline_iff.2 (forall_mem_trace_bind_of_ok (isOffline_iff.1 hr)
    fun a ha => isOffline_iff.1 (hf a ha))

theorem IsOffline.bind {r : Run α} {f : α → Run β} (hr : r.IsOffline) (hf : ∀ a, (f a).IsOffline) :
    (r >>= f).IsOffline := hr.bind_of_ok fun a _ => hf a

theorem isOffline_each {f : α → Run Unit} {as : List α} (h : ∀ a ∈ as, (f a).IsOffline) :
    (each f as).IsOffline :=
  isOffline_iff.2 (forall_mem_trace_each fun a ha => isOffline_iff.1 (h a ha))

theorem isOffline_settleAll {rs : List (Run α)} (h : ∀ r ∈ rs, r.IsOffline) :
    (settleAll rs).IsOffline := by
  intro q hmem
  obtain ⟨r, hr, hq⟩ := List.mem_flatMap.1 hmem
  exact h r hr q hq

/-- Nothing is done but to print. -/
def OnlyPrints (r : Run α) : Prop := ∀ e ∈ r.trace, ∃ t, e = .printed t

theorem onlyPrints_nil (x : Except Failure α) : OnlyPrints (⟨[], x⟩ : Run α) :=
  List.forall_mem_nil _

theorem OnlyPrints.bind {r : Run α} {f : α → Run β} (hr : r.OnlyPrints)
    (hf : ∀ a, (f a).OnlyPrints) : (r >>= f).OnlyPrints := forall_mem_trace_bind hr hf

theorem onlyPrints_each {f : α → Run Unit} {as : List α} (h : ∀ a ∈ as, (f a).OnlyPrints) :
    (each f as).OnlyPrints := forall_mem_trace_each h

theorem OnlyPrints.isOffline {r : Run α} (h : r.OnlyPrints) : r.IsOffline := by
  intro q hmem
  obtain ⟨t, ht⟩ := h _ hmem
  cases ht

/-- Nothing is done but to send requests. -/
def OnlyAsks (r : Run α) : Prop := ∀ e ∈ r.trace, ∃ q, e = .requested q

theorem onlyAsks_nil (x : Except Failure α) : OnlyAsks (⟨[], x⟩ : Run α) :=
  List.forall_mem_nil _

theorem OnlyPrints.not_wrote {r : Run α} (h : r.OnlyPrints) (path text : Text) :
    .wrote path text ∉ r.trace := by
  intro hmem
  obtain ⟨t, ht⟩ := h _ hmem
  cases ht

end Run

end CommitCheck
