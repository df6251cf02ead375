import CommitCheck.Proofs.Context
import CommitCheck.Proofs.Http.Start
import CommitCheck.Proofs.Tracker.Token
import CommitCheck.Proofs.Url.Path

/-!
# Which issue is asked for

The address of the first request is that of the tracker with another path
(`start_issueUrl`): the repository and the issue are put behind the path, and that is brought into
form.  The segments of the path are those of the tracker's path and five more, unless one of them
stands for a folder.  Of the five only owner and name can, and an environment may name them so
(`first_request_iff`).
-/

namespace CommitCheck.Tracker

open Http (Visit)
open RepositoryContext (IsName)
open Url (HasDots StandsForFolder quote inPath)
open Url.Parts (ofText)

variable {network : Http.Network} {t : Tracker} {owner name n address : Text} {base u : Url}

/-! ## What is put behind the address -/

/-- What stands behind the first slash after the address of a tracker. -/
def issuePath (owner name n : Text) : Text :=
  "repos".toList ++ '/' :: (owner ++ '/' :: (name ++ '/' :: ("issues".toList ++ '/' :: n)))

theorem issueUrl_eq_issuePath (t : Tracker) (owner name n : Text) :
    t.issueUrl (owner ++ '/' :: name) n = t.address ++ '/' :: issuePath owner name n := by
  rw [issueUrl_eq, issuePath]
  simp only [List.append_assoc]
  rfl

theorem isNameChar_of_isDigit {c : Char} (h : c.isDigit = true) :
    RepositoryContext.isNameChar c = true := by
  have halphanum : c.isAlphanum = true := by simp [Char.isAlphanum, h]
  simp [RepositoryContext.isNameChar, isWord_of_isAlphanum halphanum]

theorem not_hasDots_dropTrail {path : Text} (h : ¬HasDots path) :
    ¬HasDots (dropTrail (· == '/') path) := by
  obtain hpath | ⟨more, hpath, -⟩ := Url.dropTrail_or_append path
  · rwa [← hpath]
  · rw [hpath, Url.hasDots_append_cons, not_or] at h
    exact h.1

section Issue

variable (howner : IsName owner) (hname : IsName name) (hn : ∀ c ∈ n, c.isDigit = true)
include hn

/-- A number is one segment, and stands for no folder. -/
theorem not_hasDots_of_digits : ¬HasDots n := by
  have hslash : '/' ∉ n := fun hmem => absurd (hn _ hmem) (by decide)
  rw [Url.hasDots_of_not_mem hslash]
  rintro (rfl | rfl) <;> exact absurd (hn '.' List.mem_cons_self) (by decide)

/-- The five segments are quoted one by one. -/
theorem quote_issuePath (path : Text) :
    quote inPath (path ++ '/' :: issuePath owner name n) = joinWith ['/']
      [quote inPath path, "repos", quote inPath owner, quote inPath name, "issues", n] := by
  have hnumber : quote inPath n = n := by
    refine Url.quote_eq_self fun c hc => .inl ?_
    simp [Url.isUnreserved, Char.isAlphanum, hn c hc]
  have hrepos : quote inPath "repos" = "repos" := by decide
  have hissues : quote inPath "issues" = "issues" := by decide
  unfold issuePath
  simp only [Url.quote_append_slash, hnumber, hrepos, hissues, joinWith_cons_cons,
    joinWith_singleton, List.append_assoc, List.singleton_append]

include howner hname

/-- A character of what is put behind is a slash, or one of a name. -/
theorem of_mem_issuePath {c : Char} (hc : c ∈ issuePath owner name n) :
    c = '/' ∨ RepositoryContext.isNameChar c = true := by
  have hrepos : ∀ c ∈ "repos".toList, RepositoryContext.isNameChar c = true :=
    List.all_eq_true.1 (by decide)
  have hissues : ∀ c ∈ "issues".toList, RepositoryContext.isNameChar c = true :=
    List.all_eq_true.1 (by decide)
  simp only [issuePath, List.mem_append, List.mem_cons] at hc
  rcases hc with hc | hc | hc | hc | hc | hc | hc | hc | hc
  · exact .inr (hrepos c hc)
  · exact .inl hc
  · exact .inr (howner.chars c hc)
  · exact .inl hc
  · exact .inr (hname.chars c hc)
  · exact .inl hc
  · exact .inr (hissues c hc)
  · exact .inl hc
  · exact .inr (isNameChar_of_isDigit (hn c hc))

/-- What is put behind begins neither a query nor a fragment. -/
theorem not_mem_issuePath :
    '#' ∉ issuePath owner name n ∧ '?' ∉ issuePath owner name n := by
  have hmark {c : Char} (hslash : c ≠ '/') (hchar : RepositoryContext.isNameChar c = false) :
      c ∉ issuePath owner name n := by
    intro hmem
    rcases of_mem_issuePath howner hname hn hmem with h | h
    · exact hslash h
    · exact ne_false_of_eq_true h hchar
  exact ⟨hmark (by decide) (by decide), hmark (by decide) (by decide)⟩

/-- Of the segments that are put behind, only owner and name can stand for a folder. -/
theorem hasDots_issuePath :
    HasDots (issuePath owner name n) ↔ StandsForFolder owner ∨ StandsForFolder name := by
  have hrepos : ¬HasDots "repos" := by
    rw [Url.hasDots_of_not_mem (by decide)]
    unfold StandsForFolder
    decide
  have hissues : ¬HasDots "issues" := by
    rw [Url.hasDots_of_not_mem (by decide)]
    unfold StandsForFolder
    decide
  unfold issuePath
  simp only [Url.hasDots_append_cons, Url.hasDots_of_not_mem howner.not_mem_slash,
    Url.hasDots_of_not_mem hname.not_mem_slash]
  simp only [hrepos, hissues, not_hasDots_of_digits hn, false_or, or_false]

/-! ## The first request -/

/-- The address of an issue has no character that an address cannot have, if that of the tracker
has none and it is not too long. -/
theorem textFault?_issueUrl (hbase : Url.parse address = .ok base)
    (ht : t.address = dropTrail (· == '/') address)
    (hlength : (t.issueUrl (owner ++ '/' :: name) n).length ≤ Url.lengthLimit) :
    Url.textFault? (t.issueUrl (owner ++ '/' :: name) n) = none := by
  refine Url.textFault?_eq_none_iff.2 ⟨hlength, fun c hc => ?_⟩
  have hplain := (Url.textFault?_eq_none_iff.1 (Url.parse_eq_ok_iff.1 hbase).1).2
  rw [issueUrl_eq_issuePath, ht, List.mem_append, List.mem_cons] at hc
  have hslash : Url.isControl '/' = false := by decide
  rcases hc with hc | rfl | hc
  · exact hplain c ((dropTrail_prefix_self _ _).subset hc)
  · exact hslash
  · rcases of_mem_issuePath howner hname hn hc with rfl | hchar
    · exact hslash
    · exact RepositoryContext.isControl_of_isNameChar hchar

/-- The address of the first request is that of the tracker with another path. -/
theorem start_issueUrl (hbase : Http.start address = .ok base)
    (hweb : Http.isWebScheme base.scheme = true) (hquery : base.query = none)
    (hfragment : base.fragment = none) (ht : t.address = dropTrail (· == '/') address)
    (hlength : (t.issueUrl (owner ++ '/' :: name) n).length ≤ Url.lengthLimit) :
    Http.start (t.issueUrl (owner ++ '/' :: name) n) = .ok { base with
      path := quote inPath (Url.normalPath
        (dropTrail (· == '/') (ofText address).path ++ '/' :: issuePath owner name n)) } := by
  obtain ⟨hparse, hwhole, haskable⟩ := Http.parse_of_start hbase hweb
  have hhost := Http.host_ne_nil_of_isWhole hwhole
  have hscheme := Http.ne_nil_of_isWebScheme hweb
  obtain ⟨hquery', hfragment'⟩ := Url.query_of_parse hparse
  rw [hquery] at hquery'
  rw [hfragment] at hfragment'
  have hparts := Url.ofText_dropTrail_append (issuePath owner name n)
    (Url.authority_ne_nil_of_parse hparse hhost) (Option.map_eq_none_iff.1 hquery'.symm)
    (Option.map_eq_none_iff.1 hfragment'.symm) rfl (not_mem_issuePath howner hname hn)
  have hread := Url.ofParts_with_path (Url.parse_eq_ok_iff.1 hparse).2 hscheme
    (Url.head?_dropTrail_append (Url.head?_path_of_parse hparse hhost) (issuePath owner name n))
  rw [← hparts, ← ht, ← issueUrl_eq_issuePath] at hread
  have hfault := textFault?_issueUrl howner hname hn hparse ht hlength
  obtain ⟨hreadable, hascii, -⟩ := Http.askable_eq_ok_iff.1 haskable
  refine Http.start_eq_ok_iff.2 ⟨_, Url.parse_eq_ok_iff.2 ⟨hfault, hread⟩, .inl ⟨hwhole, ?_⟩⟩
  exact Http.askable_eq_ok_iff.2 ⟨hreadable, hascii, rfl⟩

/-- The path of the first request has the segments of the tracker's path and the five of the
issue exactly if neither owner nor name stands for a folder. -/
theorem path_eq_iff (hbase : Url.parse address = .ok base) (hscheme : base.scheme ≠ [])
    (hdots : ¬HasDots (ofText address).path) :
    quote inPath (Url.normalPath
        (dropTrail (· == '/') (ofText address).path ++ '/' :: issuePath owner name n)) =
      joinWith ['/'] [dropTrail (· == '/') base.path, "repos", quote inPath owner,
        quote inPath name, "issues", n] ↔
      ¬StandsForFolder owner ∧ ¬StandsForFolder name := by
  have hpath : dropTrail (· == '/') base.path =
      quote inPath (dropTrail (· == '/') (ofText address).path) := by
    rw [Url.path_of_parse hbase hscheme, Url.normalPath_eq_self hdots, Url.dropTrail_quote]
  rw [hpath, ← quote_issuePath hn, Url.quote_normalPath_eq_iff (by simp),
    Url.hasDots_append_cons, hasDots_issuePath howner hname hn, not_or, not_or]
  exact and_iff_right (not_hasDots_dropTrail hdots)

end Issue

/-- Slashes at the end say nothing about the address of a tracker. -/
theorem address_create (context : RepositoryContext) (address timeout : Text) (slashes : Nat)
    (observers : List Observer) :
    (create context (address ++ List.replicate slashes '/') timeout observers).address =
      dropTrail (· == '/') address :=
  dropTrail_append_of_all (by simp) address

/-- Let the repository be one that the environment names, the address of the tracker be one of
the web without query, fragment and segments that stand for folders, with any number of slashes
behind it, and the issue be a number.  If the address of the issue is not too long, the first
request goes to the address of the tracker with another path.  That has the segments of the
tracker's path and the five `repos`, owner, name, `issues` and the number exactly if neither owner
nor name is one or two full stops. -/
theorem first_request_iff {env : Environment} {context : RepositoryContext} {timeout : Text}
    {slashes : Nat} {observers : List Observer}
    (hcontext : RepositoryContext.ofEnvironment env = .ok context)
    (ht : t = create context (address ++ List.replicate slashes '/') timeout observers)
    (hbase : Http.start address = .ok base) (hweb : Http.isWebScheme base.scheme = true)
    (hquery : base.query = none) (hfragment : base.fragment = none)
    (hdots : ¬HasDots (ofText address).path) (hn : ∀ c ∈ n, c.isDigit = true) :
    ∃ owner name, context.repository = owner ++ '/' :: name ∧ '/' ∉ owner ∧ '/' ∉ name ∧
      ((t.issueUrl context.repository n).length ≤ Url.lengthLimit →
        ∃ u, Http.start (t.issueUrl context.repository n) = .ok u) ∧
      (∀ e network, Http.start (t.issueUrl context.repository n) = .error e →
        (t.ask network context.repository n).trace = []) ∧
      ∀ u, Http.start (t.issueUrl context.repository n) = .ok u →
        (∀ network, (t.ask network context.repository n).trace.head? =
          if Http.isHeadText context.token then some (Visit.sent ⟨t.headers.first u, u⟩)
          else none) ∧
        u = { base with path := u.path } ∧
        (u.path = joinWith ['/'] [dropTrail (· == '/') base.path, "repos", quote inPath owner,
            quote inPath name, "issues", n] ↔
          ¬StandsForFolder owner ∧ ¬StandsForFolder name) := by
  have haddress : t.address = dropTrail (· == '/') address := by
    rw [ht, address_create]
  have htoken : t.context.token = context.token := by rw [ht, create]
  obtain ⟨owner, name, hrepository, howner, hname⟩ :=
    RepositoryContext.isRepository_of_ofEnvironment hcontext
  obtain ⟨hparse, -, -⟩ := Http.parse_of_start hbase hweb
  have hscheme : base.scheme ≠ [] := Http.ne_nil_of_isWebScheme hweb
  have hform := start_issueUrl howner hname hn hbase hweb hquery hfragment haddress
  rw [← hrepository] at hform
  refine ⟨owner, name, hrepository, howner.not_mem_slash, hname.not_mem_slash,
    fun hlength => ⟨_, hform hlength⟩, fun e network => trace_ask_of_start_error, ?_⟩
  intro u hu
  have hread := (hform (Http.length_le_of_start hu)).symm.trans hu
  obtain rfl := Except.ok.inj hread
  refine ⟨fun network => ?_, rfl, ?_⟩
  · rw [← htoken]
    exact head?_trace_ask network hu
  · dsimp only
    exact path_eq_iff howner hname hn hparse hscheme hdots

/-- An environment that names two full stops for an owner. -/
def upward : Environment := [("GITHUB_REPOSITORY", " ../linux\n"), ("GITHUB_TOKEN", "secret")]

theorem ofEnvironment_upward :
    RepositoryContext.ofEnvironment upward = .ok ⟨"../linux", "secret"⟩ := by decide +kernel

/-- The tracker of that environment. -/
def upwardTracker : Tracker :=
  create ⟨"../linux", "secret"⟩ ("https://h/api".toList ++ List.replicate 2 '/') "10.0" []

theorem start_api : Http.start "https://h/api" =
    .ok ⟨"https", [], "h", none, "/api", none, none⟩ := by decide +kernel

theorem not_hasDots_api : ¬HasDots (ofText "https://h/api").path := by
  unfold HasDots StandsForFolder
  decide +kernel

theorem start_upward : Http.start (upwardTracker.issueUrl "../linux" "7") =
    .ok ⟨"https", [], "h", none, "/api/linux/issues/7", none, none⟩ := by decide +kernel

theorem first_request_upward :
    ∃ u, Http.start (upwardTracker.issueUrl "../linux" "7") = .ok u ∧
      u.path = "/api/linux/issues/7" ∧
      (u.path = "/api/repos/../linux/issues/7" ↔
        ¬StandsForFolder ".." ∧ ¬StandsForFolder "linux") := by
  obtain ⟨owner, name, hrepository, howner, hname, -, -, hrequest⟩ :=
    first_request_iff (n := "7") (t := upwardTracker) ofEnvironment_upward rfl
      start_api (by decide) rfl rfl not_hasDots_api (List.all_eq_true.1 (by decide))
  have hsplit : (["..", "linux"] : List Text) = [owner, name] := by
    have hpieces := splitAt_append_cons '/' owner name
    rw [splitAt_of_not_mem howner, splitAt_of_not_mem hname, ← hrepository] at hpieces
    exact Eq.trans (by decide) hpieces
  obtain ⟨rfl, hrest⟩ := List.cons.inj hsplit
  obtain ⟨rfl, -⟩ := List.cons.inj hrest
  obtain ⟨-, -, hiff⟩ := hrequest _ start_upward
  exact ⟨_, start_upward, rfl, hiff⟩

/-- So a repository that an environment names can lead to a request for something else. -/
theorem not_forall_first_request :
    ¬∀ (env : Environment) (context : RepositoryContext) (address owner name n : Text)
      (slashes : Nat) (base u : Url), RepositoryContext.ofEnvironment env = .ok context →
      context.repository = owner ++ '/' :: name → '/' ∉ owner → '/' ∉ name →
      Http.start address = .ok base → Http.isWebScheme base.scheme = true → base.query = none →
      base.fragment = none → ¬HasDots (ofText address).path → n ≠ [] →
      (∀ c ∈ n, c.isDigit = true) →
      Http.start ((create context (address ++ List.replicate slashes '/') "10.0" []).issueUrl
        context.repository n) = .ok u →
      u.path = joinWith ['/'] [dropTrail (· == '/') base.path, "repos", quote inPath owner,
        quote inPath name, "issues", n] := by
  intro h
  have hpath := h upward _ "https://h/api" ".." "linux" "7" 2 _ _ ofEnvironment_upward rfl
    (by decide) (by decide) start_api (by decide) rfl rfl not_hasDots_api (by decide)
    (List.all_eq_true.1 (by decide)) start_upward
  revert hpath
  decide

end CommitCheck.Tracker
