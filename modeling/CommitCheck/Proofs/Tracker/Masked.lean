import CommitCheck.Proofs.Run.Masked
import CommitCheck.Proofs.Tracker
import CommitCheck.Setup

/-!
# Questions seen without credentials

What a client does does not depend on the credential that it sends, as long as that can be sent:
where a response leads, whether it is followed, and what comes of it is told by the addresses and
the network alone (`masked_follow`, `masked_get`).  So two trackers that differ in the token are
asked by runs that are seen alike (`masked_ask`).
-/

namespace CommitCheck

namespace Http

/-- What a request says beside its address, without the credential. -/
def Headers.masked (h : Headers) : Headers := { h with authorization := none }

namespace Headers

variable (h : Headers) (u v : Url)

/-- A step changes nothing but the credential. -/
@[simp] theorem masked_after : (h.after u v).masked = h.masked := by
  unfold after
  split <;> rfl

/-- Where there is no credential a step changes nothing. -/
@[simp] theorem after_masked : h.masked.after u v = h.masked := by
  unfold after
  split <;> rfl

@[simp] theorem masked_first : (h.first u).masked = h.masked := by
  unfold first
  split <;> rfl

end Headers

theorem masked_send (network : Network) (h : Headers) (u : Url) :
    (send network h u).masked = send network h.masked u := by
  unfold send
  rw [Run.masked_bind]
  rfl

/-- Following is seen as if no credential were sent. -/
theorem masked_follow (network : Network) (steps : Nat) (h : Headers) (u : Url) :
    (follow network steps h u).masked = follow network steps h.masked u := by
  induction steps generalizing h u with
  | zero =>
    unfold follow
    rw [Run.masked_bind, masked_send]
    congr 1
    funext r
    cases r.next? with
    | none => rfl
    | some location =>
      rw [Run.masked_bind]
      rfl
  | succ steps ih =>
    unfold follow
    rw [Run.masked_bind, masked_send]
    congr 1
    funext r
    cases r.next? with
    | none => rfl
    | some location =>
      rw [Run.masked_bind]
      simp only [ih, Headers.masked_after, Headers.after_masked]
      rfl

/-- A question is seen as if no credential were sent, if it can be sent. -/
theorem masked_get (network : Network) {h : Headers} (address : Text)
    (hhead : h.authorization.all isHeadText = true) :
    (get network h address).masked =
      (Run.ofExcept (start address) >>= fun u => follow network stepLimit h.masked u) := by
  unfold get
  rw [Run.masked_bind]
  simp only [if_pos hhead, masked_follow, Headers.masked_first]
  rfl

end Http

namespace Tracker

variable {c c' : RepositoryContext}

/-- A question is seen alike with any token that can be sent. -/
theorem masked_ask (network : Http.Network) (s : Settings) (observers : List Observer)
    (hc : Http.isHeadText c.token = true) (hc' : Http.isHeadText c'.token = true)
    (repository n : Text) :
    ((Linter.trackerOf s c observers).ask network repository n).masked =
      ((Linter.trackerOf s c' observers).ask network repository n).masked := by
  have hget : (lookup network (Linter.trackerOf s c observers) repository n).masked =
      (lookup network (Linter.trackerOf s c' observers) repository n).masked := by
    unfold lookup
    rw [Http.masked_get network _ ((all_isHeadText_headers _).trans hc),
      Http.masked_get network _ ((all_isHeadText_headers _).trans hc')]
    rfl
  exact Run.masked_bind_congr (Run.masked_orElse_congr hget) fun r => rfl

end Tracker

end CommitCheck
