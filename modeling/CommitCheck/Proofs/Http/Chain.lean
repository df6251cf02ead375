import CommitCheck.Http.Client
import CommitCheck.Proofs.Run

/-!
# Chains of requests

A request that is followed is the first of a chain.  The response to a request leads on to the
next one (`Visit.Leads`), it is final (`Visit.Ends`), or there is a failure (`Visit.Breaks`), and
there is no fourth way (`Visit.leads_or_ends_or_breaks`).

`Concludes` says what a chain of requests comes to, if only so many of them are sent: a final
response, a failure, or one step too many.  This is what following comes to
(`Concludes.follow_eq`), and every chain comes to something (`exists_concludes`).

The next request says what the last one said, or leaves the credential out, which it does at least
where it goes to another host (`Visit.Leads.credential`).  So along a chain the credential stays
with the first host, and once it was left out it does not come back (`Chain.credential`,
`Chain.credential_eq_none_of_left`).
-/

namespace CommitCheck.Http

/-- The statuses of the responses that lead on to another address. -/
def redirects : List Nat := [301, 302, 303, 307, 308]

theorem isRedirect_iff {status : Nat} : isRedirect status = true ↔ status ∈ redirects := by
  simp [isRedirect, redirects, or_assoc]

theorem next?_eq_some_iff {r : Response} {location : Text} :
    r.next? = some location ↔ r.status ∈ redirects ∧ r.location = some location := by
  unfold Response.next?
  rw [← isRedirect_iff]
  split <;> simp [*]

theorem next?_eq_none_iff {r : Response} :
    r.next? = none ↔ ¬(r.status ∈ redirects ∧ ∃ location, r.location = some location) := by
  rw [Option.eq_none_iff_forall_ne_some]
  constructor
  · rintro h ⟨hstatus, location, hlocation⟩
    exact h location (next?_eq_some_iff.2 ⟨hstatus, hlocation⟩)
  · intro h location hnext
    obtain ⟨hstatus, hlocation⟩ := next?_eq_some_iff.1 hnext
    exact h ⟨hstatus, location, hlocation⟩

/-- A request of a chain: what it says beside its address, and the address. -/
structure Visit where
  /-- What the request says. -/
  headers : Headers
  /-- Where it goes. -/
  url : Url

namespace Visit

variable {network : Network} {v w : Visit} {r : Response} {e : Failure}

/-- The sending of a request. -/
def sent (v : Visit) : Event := .requested (v.headers.request v.url)

/-- The response to a request leads on to the next one. -/
inductive Leads (network : Network) (v : Visit) : Visit → Prop where
  | on {r : Response} {location : Text} {next : Url} (hreply : reply network v.url = .ok r)
      (hstatus : r.status ∈ redirects) (hlocation : r.location = some location)
      (htarget : target v.url location = .ok next) :
      Leads network v ⟨v.headers.after v.url next, next⟩

/-- The response to a request is final. -/
structure Ends (network : Network) (v : Visit) (r : Response) : Prop where
  /-- The request is answered. -/
  answered : reply network v.url = .ok r
  /-- The answer does not lead on. -/
  final : ¬(r.status ∈ redirects ∧ ∃ location, r.location = some location)

/-- A request fails, or its response names no address to go on to. -/
inductive Breaks (network : Network) (v : Visit) : Failure → Prop where
  | unanswered {e : Failure} (h : reply network v.url = .error e) : Breaks network v e
  | astray {r : Response} {location : Text} {e : Failure} (hreply : reply network v.url = .ok r)
      (hstatus : r.status ∈ redirects) (hlocation : r.location = some location)
      (htarget : target v.url location = .error e) : Breaks network v e

theorem leads_or_ends_or_breaks (network : Network) (v : Visit) :
    (∃ w, Leads network v w) ∨ (∃ r, Ends network v r) ∨ ∃ e, Breaks network v e := by
  cases hreply : reply network v.url with
  | error e => exact .inr (.inr ⟨e, .unanswered hreply⟩)
  | ok r =>
    cases hnext : r.next? with
    | none => exact .inr (.inl ⟨r, hreply, next?_eq_none_iff.1 hnext⟩)
    | some location =>
      obtain ⟨hstatus, hlocation⟩ := next?_eq_some_iff.1 hnext
      cases htarget : target v.url location with
      | error e => exact .inr (.inr ⟨e, .astray hreply hstatus hlocation htarget⟩)
      | ok next => exact .inl ⟨_, .on hreply hstatus hlocation htarget⟩

/-! ## Following one request -/

theorem Ends.follow_eq (h : Ends network v r) (steps : Nat) :
    follow network steps v.headers v.url = ⟨[v.sent], .ok r⟩ := by
  have hsend : (send network v.headers v.url).outcome = .ok r := h.answered
  cases steps <;>
  · unfold follow
    rw [Run.bind_of_ok hsend, next?_eq_none_iff.2 h.final]
    rfl

theorem Breaks.follow_eq (h : Breaks network v e) (steps : Nat) :
    follow network steps v.headers v.url = ⟨[v.sent], .error e⟩ := by
  cases h with
  | unanswered h =>
    have hsend : (send network v.headers v.url).outcome = .error e := h
    cases steps <;>
    · unfold follow
      rw [Run.bind_of_error hsend]
      rfl
  | @astray r location _ hreply hstatus hlocation htarget =>
    have hsend : (send network v.headers v.url).outcome = .ok r := hreply
    cases steps <;>
    · unfold follow
      rw [Run.bind_of_ok hsend, next?_eq_some_iff.2 ⟨hstatus, hlocation⟩]
      dsimp only
      rw [htarget]
      rfl

/-- Where no step is left, a response that leads on is a failure. -/
theorem Leads.follow_zero (h : Leads network v w) :
    follow network 0 v.headers v.url = ⟨[v.sent], .error endless⟩ := by
  obtain @⟨r, location, next, hreply, hstatus, hlocation, htarget⟩ := h
  have hsend : (send network v.headers v.url).outcome = .ok r := hreply
  unfold follow
  rw [Run.bind_of_ok hsend, next?_eq_some_iff.2 ⟨hstatus, hlocation⟩]
  dsimp only
  rw [htarget]
  rfl

/-- Where a step is left, the next request is followed. -/
theorem Leads.follow_succ (h : Leads network v w) (steps : Nat) :
    follow network (steps + 1) v.headers v.url =
      ⟨v.sent :: (follow network steps w.headers w.url).trace,
        (follow network steps w.headers w.url).outcome⟩ := by
  obtain @⟨r, location, next, hreply, hstatus, hlocation, htarget⟩ := h
  have hsend : (send network v.headers v.url).outcome = .ok r := hreply
  rw [follow, Run.bind_of_ok hsend, next?_eq_some_iff.2 ⟨hstatus, hlocation⟩]
  dsimp only
  rw [htarget]
  rfl

end Visit

/-! ## Chains -/

open Visit (Leads Ends Breaks sent)

variable {network : Network} {v w last : Visit} {visits : List Visit} {limit steps : Nat}

/-- The requests from a first to a last one, each of which leads on to the next. -/
inductive Chain (network : Network) : Visit → List Visit → Visit → Prop where
  | single (v : Visit) : Chain network v [v] v
  | cons {v w last : Visit} {visits : List Visit} (h : Leads network v w)
      (hrest : Chain network w visits last) : Chain network v (v :: visits) last

theorem Chain.exists_cons (h : Chain network v visits last) : ∃ rest, visits = v :: rest := by
  cases h <;> exact ⟨_, rfl⟩

theorem Chain.length_pos (h : Chain network v visits last) : 0 < visits.length := by
  obtain ⟨rest, rfl⟩ := h.exists_cons
  exact Nat.succ_pos _

/-- What following comes to at the last request of a chain, it comes to at the first one. -/
theorem Chain.follow_eq {n : Nat} {o : Except Failure Response} (h : Chain network v visits last)
    (hlength : visits.length + n = steps + 1)
    (hlast : follow network n last.headers last.url = ⟨[last.sent], o⟩) :
    follow network steps v.headers v.url = ⟨visits.map sent, o⟩ := by
  induction h generalizing steps with
  | single v =>
    obtain rfl : n = steps := by
      rw [List.length_singleton] at hlength
      omega
    exact hlast
  | @cons v w last visits hleads hrest ih =>
    have hpos := hrest.length_pos
    obtain ⟨k, rfl⟩ : ∃ k, steps = k + 1 := ⟨steps - 1, by rw [List.length_cons] at hlength; omega⟩
    have hk : visits.length + n = k + 1 := by
      rw [List.length_cons] at hlength
      omega
    rw [hleads.follow_succ, ih hk hlast, List.map_cons]

/-- What the chain of a request comes to, if no more than so many requests are sent. -/
inductive Concludes (network : Network) (limit : Nat) (first : Visit) :
    List Visit → Except Failure Response → Prop where
  /-- The last response is final. -/
  | final {visits : List Visit} {last : Visit} {r : Response}
      (hchain : Chain network first visits last) (hlength : visits.length ≤ limit)
      (hends : Ends network last r) : Concludes network limit first visits (.ok r)
  /-- The last request fails. -/
  | broken {visits : List Visit} {last : Visit} {e : Failure}
      (hchain : Chain network first visits last) (hlength : visits.length ≤ limit)
      (hbreaks : Breaks network last e) : Concludes network limit first visits (.error e)
  /-- The last response leads on, and there may be no more requests. -/
  | endless {visits : List Visit} {last next : Visit}
      (hchain : Chain network first visits last) (hlength : visits.length = limit)
      (hleads : Leads network last next) : Concludes network limit first visits (.error endless)

theorem Concludes.length_le {o : Except Failure Response}
    (h : Concludes network limit v visits o) : visits.length ≤ limit := by
  cases h with
  | final _ hlength _ => exact hlength
  | broken _ hlength _ => exact hlength
  | endless _ hlength _ => exact Nat.le_of_eq hlength

theorem Concludes.chain {o : Except Failure Response} (h : Concludes network limit v visits o) :
    ∃ last, Chain network v visits last := by
  cases h with
  | final hchain _ _ => exact ⟨_, hchain⟩
  | broken hchain _ _ => exact ⟨_, hchain⟩
  | endless hchain _ _ => exact ⟨_, hchain⟩

/-- A chain that goes on from the next request goes on from the first one. -/
theorem Concludes.cons {o : Except Failure Response} (hleads : Leads network v w)
    (h : Concludes network limit w visits o) :
    Concludes network (limit + 1) v (v :: visits) o := by
  cases h with
  | final hchain hlength hends =>
    exact .final (.cons hleads hchain) (Nat.succ_le_succ hlength) hends
  | broken hchain hlength hbreaks =>
    exact .broken (.cons hleads hchain) (Nat.succ_le_succ hlength) hbreaks
  | endless hchain hlength hnext =>
    exact .endless (.cons hleads hchain) (congrArg Nat.succ hlength) hnext

/-- Every chain comes to something. -/
theorem exists_concludes (network : Network) (steps : Nat) (v : Visit) :
    ∃ visits o, Concludes network (steps + 1) v visits o := by
  induction steps generalizing v with
  | zero =>
    obtain ⟨w, h⟩ | ⟨r, h⟩ | ⟨e, h⟩ := Visit.leads_or_ends_or_breaks network v
    · exact ⟨_, _, .endless (.single v) rfl h⟩
    · exact ⟨_, _, .final (.single v) (Nat.le_refl 1) h⟩
    · exact ⟨_, _, .broken (.single v) (Nat.le_refl 1) h⟩
  | succ steps ih =>
    obtain ⟨w, h⟩ | ⟨r, h⟩ | ⟨e, h⟩ := Visit.leads_or_ends_or_breaks network v
    · obtain ⟨visits, o, hrest⟩ := ih w
      exact ⟨_, _, hrest.cons h⟩
    · exact ⟨_, _, .final (.single v) (Nat.succ_le_succ (Nat.zero_le _)) h⟩
    · exact ⟨_, _, .broken (.single v) (Nat.succ_le_succ (Nat.zero_le _)) h⟩

/-- Following sends the requests of the chain and comes to what the chain comes to. -/
theorem Concludes.follow_eq {o : Except Failure Response}
    (h : Concludes network (steps + 1) v visits o) :
    follow network steps v.headers v.url = ⟨visits.map sent, o⟩ := by
  have hrest : visits.length + (steps + 1 - visits.length) = steps + 1 :=
    Nat.add_sub_cancel' h.length_le
  cases h with
  | final hchain hlength hends => exact hchain.follow_eq hrest (hends.follow_eq _)
  | broken hchain hlength hbreaks => exact hchain.follow_eq hrest (hbreaks.follow_eq _)
  | endless hchain hlength hleads => exact hchain.follow_eq (n := 0) hlength hleads.follow_zero

/-- Following does nothing but to send requests. -/
theorem onlyAsks_follow (network : Network) (steps : Nat) (h : Headers) (u : Url) :
    (follow network steps h u).OnlyAsks := by
  obtain ⟨visits, o, hconcludes⟩ := exists_concludes network steps ⟨h, u⟩
  have hfollow : follow network steps h u = ⟨visits.map sent, o⟩ := hconcludes.follow_eq
  intro e he
  rw [hfollow] at he
  obtain ⟨v, -, rfl⟩ := List.mem_map.1 he
  exact ⟨_, rfl⟩

theorem onlyAsks_get (network : Network) (h : Headers) (address : Text) :
    (get network h address).OnlyAsks := by
  unfold get
  cases start address with
  | error e => exact Run.onlyAsks_nil _
  | ok u =>
    rw [Run.bind_ofExcept_ok]
    split
    · exact onlyAsks_follow network _ _ u
    · exact Run.onlyAsks_nil _

theorem onlyAsks_getOnce (network : Network) (h : Headers) (address : Text) :
    (getOnce network h address).OnlyAsks := by
  have hsend : ∀ u, (send network (h.first u) u).OnlyAsks := fun u =>
    Run.forall_mem_trace_bind (List.forall_mem_singleton.2 ⟨_, rfl⟩) fun _ => List.forall_mem_nil _
  unfold getOnce
  cases start address with
  | error e => exact Run.onlyAsks_nil _
  | ok u =>
    rw [Run.bind_ofExcept_ok]
    split
    · refine Run.forall_mem_trace_bind (hsend u) fun r => ?_
      split
      · exact List.forall_mem_nil _
      · exact Run.forall_mem_trace_bind (List.forall_mem_nil _) fun _ => List.forall_mem_nil _
    · exact Run.onlyAsks_nil _

/-! ## The credential -/

/-- The next request has no credential, or it says what the last one said and goes to the same
host. -/
theorem Visit.Leads.credential (h : Leads network v w) :
    w.headers.authorization = none ∨ w.headers = v.headers ∧ w.url.host = v.url.host := by
  obtain @⟨r, location, next, hreply, hstatus, hlocation, htarget⟩ := h
  dsimp only
  unfold Headers.after
  split
  · rename_i hkept
    refine .inr ⟨rfl, ?_⟩
    rcases Bool.or_eq_true_iff.1 hkept with hsame | hupgrade
    · simp only [sameOrigin, Bool.and_eq_true, beq_iff_eq] at hsame
      exact hsame.1.2.symm
    · simp only [isUpgrade, Bool.and_eq_true, beq_iff_eq] at hupgrade
      exact hupgrade.1.1.1.1.symm
  · exact .inl rfl

/-- Only requests to the first host have the credential of the first request. -/
theorem Chain.credential (h : Chain network v visits last) :
    ∀ x ∈ visits, x.headers.authorization = none ∨
      x.headers.authorization = v.headers.authorization ∧ x.url.host = v.url.host := by
  induction h with
  | single v => exact List.forall_mem_singleton.2 (.inr ⟨rfl, rfl⟩)
  | @cons v w last visits hleads hrest ih =>
    refine List.forall_mem_cons.2 ⟨.inr ⟨rfl, rfl⟩, fun x hx => ?_⟩
    rcases ih x hx with hnone | ⟨hsame, hhost⟩
    · exact .inl hnone
    · rcases hleads.credential with hnone | ⟨hheaders, hnext⟩
      · exact .inl (hsame.trans hnone)
      · exact .inr ⟨hsame.trans (congrArg Headers.authorization hheaders), hhost.trans hnext⟩

/-- The requests from any place of a chain on are a chain. -/
theorem Chain.suffix {before after : List Visit} {x : Visit} (h : Chain network v visits last)
    (hsplit : visits = before ++ x :: after) : Chain network x (x :: after) last := by
  induction h generalizing before with
  | single v =>
    obtain ⟨rfl, hx⟩ | ⟨_, _, h⟩ := List.cons_eq_append_iff.1 hsplit
    · obtain ⟨rfl, rfl⟩ := List.cons.inj hx
      exact .single _
    · simp at h
  | @cons v w last visits hleads hrest ih =>
    obtain ⟨rfl, hx⟩ | ⟨before, rfl, hrest'⟩ := List.cons_eq_append_iff.1 hsplit
    · obtain ⟨rfl, rfl⟩ := List.cons.inj hx
      exact .cons hleads hrest
    · exact ih hrest'

/-- A credential that was left out once does not come back. -/
theorem Chain.credential_eq_none (h : Chain network v visits last)
    (hv : v.headers.authorization = none) : ∀ x ∈ visits, x.headers.authorization = none := by
  intro x hx
  rcases h.credential x hx with hnone | ⟨hsame, -⟩
  · exact hnone
  · exact hsame.trans hv

/-- From the first request to another host on, no request has a credential. -/
theorem Chain.credential_eq_none_of_left {before after : List Visit} {x : Visit}
    (h : Chain network v visits last) (hsplit : visits = before ++ x :: after)
    (hleft : x.url.host ≠ v.url.host) : ∀ y ∈ x :: after, y.headers.authorization = none := by
  refine (h.suffix hsplit).credential_eq_none ?_
  have hx : x ∈ visits := hsplit ▸ List.mem_append_right before List.mem_cons_self
  rcases h.credential x hx with hnone | ⟨-, hhost⟩
  · exact hnone
  · exact absurd hhost hleft

/-- An address that leads nowhere: it has no host, and no scheme by which it could be asked. -/
structure IsNowhere (u : Url) : Prop where
  /-- There is no scheme. -/
  scheme : u.scheme = []
  /-- There is no host. -/
  host : u.host = []

/-- A request that leads nowhere is refused, whatever the network is. -/
theorem IsNowhere.reply_eq {u : Url} (h : IsNowhere u) (network : Network) :
    reply network u = .error (.requestFailed .unsupportedProtocol "unsupported URL") := by
  have hscheme : isWebScheme u.scheme = false := by
    rw [h.scheme]
    rfl
  rw [reply, hscheme]
  rfl

/-- So it is the only one of its chain. -/
theorem Chain.eq_singleton (h : Chain network v visits last) (hv : IsNowhere v.url) :
    visits = [v] := by
  cases h with
  | single _ => rfl
  | cons hleads _ =>
    obtain ⟨hreply, -, -, -⟩ := hleads
    rw [hv.reply_eq] at hreply
    cases hreply

/-- The requests with a credential go to the host of the first request, or nowhere. -/
theorem Chain.host_of_credential {host : Text} (h : Chain network v visits last)
    (hhost : v.url.host = host ∨ IsNowhere v.url) :
    ∀ x ∈ visits, x.headers.authorization ≠ none → x.url.host = host ∨ IsNowhere x.url := by
  intro x hx hcredential
  rcases h.credential x hx with hnone | ⟨-, hsame⟩
  · exact absurd hnone hcredential
  · rcases hhost with hhost | hnowhere
    · exact .inl (hsame.trans hhost)
    · rw [h.eq_singleton hnowhere] at hx
      obtain rfl := List.mem_singleton.1 hx
      exact .inr hnowhere

/-- After a request to another host no request has a credential. -/
theorem Chain.credential_left {host : Text} {before after : List Visit} {x : Visit}
    (h : Chain network v visits last) (hhost : v.url.host = host ∨ IsNowhere v.url)
    (hsplit : visits = before ++ x :: after) (hleft : x.url.host ≠ host) :
    ∀ y ∈ after, y.headers.authorization = none := by
  intro y hy
  rcases hhost with hhost | hnowhere
  · refine h.credential_eq_none_of_left hsplit ?_ y (List.mem_cons_of_mem x hy)
    rwa [hhost]
  · rw [h.eq_singleton hnowhere] at hsplit
    have hafter : after = [] := by
      have hlength := congrArg List.length hsplit
      simp only [List.length_append, List.length_cons, List.length_nil] at hlength
      exact List.length_eq_zero_iff.1 (by omega)
    rw [hafter] at hy
    cases hy

/-! ## Failures -/

/-- A failure that says nothing about an issue. -/
def IsPlain (e : Failure) : Prop :=
  ∀ issue repository reason, e ≠ .trackerUnreachable issue repository reason

theorem isPlain_orInvalid {α : Type} {x : Except UrlFault α} {e : Failure}
    (h : orInvalid x = .error e) : IsPlain e := by
  unfold orInvalid at h
  split at h
  · cases h
  · obtain rfl := Except.error.inj h
    unfold invalid
    split <;> exact nofun

theorem isPlain_hostOf {u : Url} {e : Failure} (h : hostOf u = .error e) : IsPlain e := by
  unfold hostOf at h
  split at h
  · cases h
  · obtain rfl := Except.error.inj h
    exact nofun

theorem isPlain_isWhole {u : Url} {e : Failure} (h : isWhole u = .error e) : IsPlain e := by
  unfold isWhole at h
  split at h
  · cases h
  · cases hhost : hostOf u with
    | ok name =>
      rw [hhost] at h
      cases h
    | error e' =>
      rw [hhost] at h
      obtain rfl := Except.error.inj h
      exact isPlain_hostOf hhost

theorem isPlain_withFragment {u : Url} {fragment : Text} {e : Failure}
    (h : (if !fragment.isEmpty && (u.fragment.getD []).isEmpty then
      orInvalid (u.withFragment (Url.unquote fragment)) else .ok u) = .error e) : IsPlain e := by
  split at h
  · exact isPlain_orInvalid h
  · cases h

/-- The second half of `resolve`: an address that is not whole is joined to the base. -/
theorem isPlain_joined {base u : Url} {e : Failure}
    (h : (do
      let whole ← isWhole u
      let u ← if whole then .ok u else orInvalid (base.join u)
      let fragment := base.fragment.getD []
      if !fragment.isEmpty && (u.fragment.getD []).isEmpty then
        orInvalid (u.withFragment (Url.unquote fragment))
      else .ok u : Except Failure Url) = .error e) : IsPlain e := by
  refine Result.of_bind_eq_error h (fun _ => isPlain_isWhole) fun whole e h => ?_
  split at h
  · exact isPlain_withFragment h
  · exact Result.of_bind_eq_error h (fun _ => isPlain_orInvalid) fun _ _ => isPlain_withFragment

theorem isPlain_resolve {base location : Url} {e : Failure}
    (h : resolve base location = .error e) : IsPlain e := by
  unfold resolve at h
  refine Result.of_bind_eq_error h (fun _ => isPlain_isWhole) fun whole e h => ?_
  split at h
  · exact isPlain_joined h
  · refine Result.of_bind_eq_error h (fun _ => isPlain_hostOf) fun name e h => ?_
    exact Result.of_bind_eq_error h (fun _ => isPlain_orInvalid) fun _ _ => isPlain_joined

theorem isPlain_askable {u : Url} {e : Failure} (h : askable u = .error e) : IsPlain e := by
  unfold askable at h
  refine Result.of_bind_eq_error h (fun _ => isPlain_hostOf) fun _ e h => ?_
  split at h
  · cases h
  · obtain rfl := Except.error.inj h
    exact nofun

theorem isPlain_target {base : Url} {location : Text} {e : Failure}
    (h : target base location = .error e) : IsPlain e := by
  unfold target at h
  split at h
  · exact Result.of_bind_eq_error h (fun _ => isPlain_resolve) fun _ _ => isPlain_askable
  · obtain rfl := Except.error.inj h
    exact nofun

theorem isPlain_reply {u : Url} {e : Failure} (h : reply network u = .error e) : IsPlain e := by
  unfold reply at h
  split at h
  · obtain rfl := Except.error.inj h
    exact nofun
  · split at h
    · cases h
    · obtain rfl := Except.error.inj h
      exact nofun
    · obtain rfl := Except.error.inj h
      exact nofun

/-- No chain comes to a failure that is about an issue. -/
theorem Concludes.isPlain {e : Failure} (h : Concludes network limit v visits (.error e)) :
    IsPlain e := by
  cases h with
  | broken _ _ hbreaks =>
    cases hbreaks with
    | unanswered h => exact isPlain_reply h
    | astray _ _ _ h => exact isPlain_target h
  | endless _ _ _ => exact nofun

end CommitCheck.Http
