import CommitCheck.Proofs.Run

/-!
# Runs seen without credentials

A run is seen without credentials if they are left out of the requests that it sends
(`Run.masked`).  Everything else is there: all events in order, and the outcome.

Two runs that are seen alike can be followed by runs that are seen alike (`masked_bind_congr`), and
the same goes for runs in whose place another one is taken when they fail, and for runs that are
settled together.
-/

namespace CommitCheck

/-- A request without its credential. -/
def Http.Request.masked (q : Http.Request) : Http.Request := { q with authorization := none }

/-- An event, seen without credentials. -/
def Event.masked : Event → Event
  | .requested q => .requested q.masked
  | e => e

namespace Run

variable {α β γ : Type}

/-- A run, seen without credentials. -/
def masked (r : Run α) : Run α := ⟨r.trace.map Event.masked, r.outcome⟩

/-- Runs that are seen alike come to the same. -/
theorem outcome_eq_of_masked {r r' : Run α} (h : r.masked = r'.masked) : r.outcome = r'.outcome :=
  (congrArg outcome h :)

theorem masked_bind {r : Run α} {f : α → Run β} :
    (r >>= f).masked = (r.masked >>= fun a => (f a).masked) := by
  cases h : r.outcome with
  | error e =>
    have hmasked : r.masked.outcome = .error e := h
    rw [bind_of_error h, bind_of_error hmasked]
    rfl
  | ok a =>
    have hmasked : r.masked.outcome = .ok a := h
    rw [bind_of_ok h, bind_of_ok hmasked]
    simp only [masked, List.map_append]

/-- Runs that are seen alike can be followed by runs that are seen alike. -/
theorem masked_bind_congr {r r' : Run α} {f f' : α → Run β} (hr : r.masked = r'.masked)
    (hf : ∀ a, (f a).masked = (f' a).masked) : (r >>= f).masked = (r' >>= f').masked := by
  rw [masked_bind, masked_bind, hr, funext hf]

theorem masked_orElse_congr {r r' : Run α} {f : Failure → Run α} (h : r.masked = r'.masked) :
    (r.orElse f).masked = (r'.orElse f).masked := by
  have houtcome := outcome_eq_of_masked h
  have htrace : r.trace.map Event.masked = r'.trace.map Event.masked := (congrArg trace h :)
  cases hr : r.outcome with
  | ok a => rw [orElse_of_ok hr, orElse_of_ok (houtcome.symm.trans hr), h]
  | error e =>
    rw [orElse_of_error hr, orElse_of_error (houtcome.symm.trans hr)]
    simp only [masked, List.map_append, htrace]

/-- A run that gives its outcome is seen as it was. -/
theorem masked_attempt_congr {r r' : Run α} (h : r.masked = r'.masked) :
    r.attempt.masked = r'.attempt.masked :=
  (congrArg attempt h :)

/-- Runs that are seen alike one by one are seen alike when they are settled together. -/
theorem masked_settleAll_congr {f g : γ → Run α} {cs : List γ}
    (h : ∀ c ∈ cs, (f c).masked = (g c).masked) :
    (settleAll (cs.map f)).masked = (settleAll (cs.map g)).masked := by
  have htrace (c : γ) (hc : c ∈ cs) :
      (f c).trace.map Event.masked = (g c).trace.map Event.masked := (congrArg trace (h c hc) :)
  have hsettle : settle (cs.map f) = settle (cs.map g) :=
    settle_map_congr fun c hc => outcome_eq_of_masked (h c hc)
  simp only [settleAll, masked, hsettle, List.flatMap_map, List.map_flatMap]
  rw [List.flatMap_congr htrace]

end Run

end CommitCheck
