import CommitCheck.Context
import CommitCheck.Http.Client
import CommitCheck.Proofs.Text.Blank
import CommitCheck.Proofs.Text.Pieces
import CommitCheck.Url.Basic

/-!
# Repositories that an environment names

The repository of a context that was made from an environment is an owner and a name with a slash
between them (`isRepository_of_ofEnvironment`).  Neither has a slash or a control character
(`IsName.not_mem_slash`, `isControl_of_isNameChar`), but they can be full stops alone.

What an environment comes to is one of four things (`Reading`): a context, or one of three failures,
which are looked for in a fixed order.  `ofEnvironment_accepts` says which environments have a
context, and which variable a failure names.

A token has no part in whether there is a context, if it is one (`IsToken`,
`ofEnvironment_of_token`).
-/

namespace CommitCheck

/-- A fact about a character of ASCII can be checked for all of them. -/
theorem of_ascii {P : Char → Prop} (h : ∀ n < 128, P (Char.ofNat n)) {c : Char}
    (hc : c.toNat < 128) : P c := by
  have hread := h c.toNat hc
  rwa [Char.ofNat_toNat] at hread

namespace RepositoryContext

variable {env : Environment} {context : RepositoryContext} {t : Text}

/-- A text that can be the name of an owner or of a repository. -/
structure IsName (t : Text) : Prop where
  /-- There is a character. -/
  ne_nil : t ≠ []
  /-- All characters can be in a name. -/
  chars : ∀ c ∈ t, isNameChar c = true

theorem IsName.not_mem_slash (h : IsName t) : '/' ∉ t :=
  fun hmem => absurd (h.chars _ hmem) (by decide)

/-- A character that can be in a name is no control character. -/
theorem isControl_of_isNameChar {c : Char} (h : isNameChar c = true) :
    Url.isControl c = false := by
  by_cases hc : c.toNat < 128
  · exact of_ascii (P := fun c => isNameChar c = true → Url.isControl c = false)
      (by decide +kernel) hc h
  · unfold Url.isControl
    rw [Bool.or_eq_false_iff, decide_eq_false_iff_not, beq_eq_false_iff_ne]
    omega

/-- An owner and a name with a slash between them. -/
def IsRepository (t : Text) : Prop :=
  ∃ owner name, t = owner ++ '/' :: name ∧ IsName owner ∧ IsName name

theorem isOwnerAndName_iff : isOwnerAndName t = true ↔ IsRepository t := by
  unfold isOwnerAndName
  constructor
  · intro h
    split at h
    · cases h
    · rename_i owner name hcut
      simp only [Bool.and_eq_true, Bool.not_eq_true', List.isEmpty_eq_false_iff,
        List.all_eq_true] at h
      exact ⟨owner, name, (eq_append_of_cutAt? hcut).1, ⟨h.1.1.1, h.1.1.2⟩, ⟨h.1.2, h.2⟩⟩
  · rintro ⟨owner, name, rfl, howner, hname⟩
    rw [cutAt?_append_cons howner.not_mem_slash]
    simp only [Bool.and_eq_true, Bool.not_eq_true', List.isEmpty_eq_false_iff, List.all_eq_true]
    exact ⟨⟨⟨howner.ne_nil, howner.chars⟩, hname.ne_nil⟩, hname.chars⟩

namespace IsRepository

theorem ne_nil (h : IsRepository t) : t ≠ [] := by
  obtain ⟨owner, name, rfl, -, -⟩ := h
  exact List.append_ne_nil_of_right_ne_nil owner (List.cons_ne_nil '/' name)

/-- The slash between owner and name is the only one. -/
theorem count_slash (h : IsRepository t) : t.count '/' = 1 := by
  obtain ⟨owner, name, rfl, howner, hname⟩ := h
  rw [List.count_append, List.count_cons_self, List.count_eq_zero.2 howner.not_mem_slash,
    List.count_eq_zero.2 hname.not_mem_slash]

/-- No control character is in it. -/
theorem isControl_eq_false (h : IsRepository t) {c : Char} (hc : c ∈ t) :
    Url.isControl c = false := by
  obtain ⟨owner, name, rfl, howner, hname⟩ := h
  rcases List.mem_append.1 hc with hc | hc
  · exact isControl_of_isNameChar (howner.chars c hc)
  · rcases List.mem_cons.1 hc with rfl | hc
    · decide
    · exact isControl_of_isNameChar (hname.chars c hc)

theorem not_mem_feed (h : IsRepository t) : '\n' ∉ t :=
  fun hmem => absurd (h.isControl_eq_false hmem) (by decide)

end IsRepository

/-! ## What an environment comes to -/

/-- What an environment comes to, by the repository and the token that it gives.  The repository
is looked at first, whatever the token is. -/
inductive Reading (repository token : Text) : Except Failure RepositoryContext → Prop
  /-- No repository is given. -/
  | unset : repository = [] → Reading repository token (.error .repositoryUnset)
  /-- What is given for it is none. -/
  | malformed : repository ≠ [] → ¬IsRepository repository →
      Reading repository token (.error (.repositoryMalformed repository))
  /-- There is a repository and no token is given. -/
  | tokenless : IsRepository repository → token = [] → Reading repository token (.error .tokenUnset)
  /-- There are both. -/
  | context : IsRepository repository → token ≠ [] →
      Reading repository token (.ok ⟨repository, token⟩)

theorem reading_ofEnvironment (env : Environment) :
    Reading (trim ((env.lookup repositoryVariable).getD []))
      (trim ((env.lookup tokenVariable).getD [])) (ofEnvironment env) := by
  unfold ofEnvironment
  dsimp only
  split
  · rename_i hunset
    exact .unset (List.isEmpty_iff.1 hunset)
  · rename_i hset
    split
    · rename_i hmalformed
      refine .malformed (fun h => hset (List.isEmpty_iff.2 h)) ?_
      rw [← isOwnerAndName_iff]
      simpa using hmalformed
    · rename_i hformed
      have hrepository := isOwnerAndName_iff.1 (by simpa using hformed)
      split
      · rename_i htoken
        exact .tokenless hrepository (List.isEmpty_iff.1 htoken)
      · rename_i htoken
        exact .context hrepository fun h => htoken (List.isEmpty_iff.2 h)

/-- Without a context the environment is at fault. -/
theorem isConfiguration_of_ofEnvironment {e : Failure} (h : ofEnvironment env = .error e) :
    e.isConfiguration = true := by
  have hreading := reading_ofEnvironment env
  rw [h] at hreading
  cases hreading with
  | unset => rfl
  | malformed => rfl
  | tokenless => rfl

/-- The repository of a context is an owner and a name. -/
theorem isRepository_of_ofEnvironment (h : ofEnvironment env = .ok context) :
    IsRepository context.repository := by
  have hreading := reading_ofEnvironment env
  rw [h] at hreading
  cases hreading with
  | context hrepository => exact hrepository

/-- The message of a failure starts with the name of the variable that is at fault. -/
theorem Reading.names_variable {repository token : Text} {e : Failure}
    (h : Reading repository token (.error e)) :
    (repositoryVariable <+: e.message ↔ ¬IsRepository repository) ∧
      (tokenVariable <+: e.message ↔ IsRepository repository) := by
  cases h with
  | unset hnil =>
    have hnot : ¬IsRepository repository := fun hrepository => hrepository.ne_nil hnil
    exact ⟨iff_of_true (by decide) hnot, iff_of_false (by decide) hnot⟩
  | malformed _ hnot =>
    have hstart : repositoryVariable <+:
        "GITHUB_REPOSITORY must look like owner/repo, got '".toList := by decide
    have hprefix : repositoryVariable <+: (Failure.repositoryMalformed repository).message :=
      hstart.trans ((List.prefix_append _ repository).trans (List.prefix_append _ ['\'']))
    refine ⟨iff_of_true hprefix hnot, iff_of_false (fun htoken => ?_) hnot⟩
    -- of two starts of one text the shorter one starts the longer one
    rcases List.prefix_or_prefix_of_prefix hprefix htoken with h | h
    · exact absurd h (by decide)
    · exact absurd h (by decide)
  | tokenless hrepository =>
    have hnot : ¬¬IsRepository repository := not_not_intro hrepository
    exact ⟨iff_of_false (by decide) hnot, iff_of_true (by decide) hrepository⟩

/-! ## Accepted environments -/

/-- An environment gives a value for a variable.  The blanks around it do not count, and a variable
that is not set has the empty value. -/
def Gives (env : Environment) (name value : Text) : Prop :=
  IsTrimOf isBlank value ((env.lookup name).getD [])

theorem gives_iff {name value : Text} :
    Gives env name value ↔ trim ((env.lookup name).getD []) = value := dropEnds_eq_iff.symm

theorem ofEnvironment_eq_ok_iff : ofEnvironment env = .ok context ↔
    Gives env repositoryVariable context.repository ∧ IsRepository context.repository ∧
      Gives env tokenVariable context.token ∧ context.token ≠ [] := by
  have hreading := reading_ofEnvironment env
  simp only [gives_iff]
  constructor
  · intro h
    rw [h] at hreading
    generalize trim ((env.lookup repositoryVariable).getD []) = repository at hreading ⊢
    generalize trim ((env.lookup tokenVariable).getD []) = token at hreading ⊢
    cases hreading with
    | context hrepository htoken => exact ⟨rfl, hrepository, rfl, htoken⟩
  · rintro ⟨hgiven, hrepository, htoken, hne⟩
    rw [hgiven, htoken] at hreading
    generalize ofEnvironment env = result at hreading ⊢
    cases hreading with
    | unset hnil => exact absurd hnil hrepository.ne_nil
    | malformed _ hnot => exact absurd hrepository hnot
    | tokenless _ hnil => exact absurd hnil hne
    | context => rfl

/-- An environment has a context exactly if it gives an owner and a name with a slash between them
for the repository, and a token that is not empty.

The context holds these two values.  Neither has a blank at an end, and the repository has no line
feed and no other slash.  Without a context the environment is at fault, and the message starts with
the name of a variable: that of the repository if none is given or what is given is malformed,
whatever the token is, and else that of the token. -/
theorem ofEnvironment_accepts (env : Environment) :
    (∀ context, ofEnvironment env = .ok context ↔
      Gives env repositoryVariable context.repository ∧ IsRepository context.repository ∧
        Gives env tokenVariable context.token ∧ context.token ≠ []) ∧
    (∀ context, ofEnvironment env = .ok context →
      IsTrimmed isBlank context.repository ∧ IsTrimmed isBlank context.token ∧
        '\n' ∉ context.repository ∧ context.repository.count '/' = 1) ∧
    ∀ e, ofEnvironment env = .error e → e.isConfiguration = true ∧
      ∃ repository, Gives env repositoryVariable repository ∧
        (repositoryVariable <+: e.message ↔ ¬IsRepository repository) ∧
        (tokenVariable <+: e.message ↔ IsRepository repository) := by
  refine ⟨fun context => ofEnvironment_eq_ok_iff, ?_, ?_⟩
  · intro context h
    obtain ⟨hrepository, hformed, htoken, -⟩ := ofEnvironment_eq_ok_iff.1 h
    exact ⟨hrepository.trimmed, htoken.trimmed, hformed.not_mem_feed, hformed.count_slash⟩
  · intro e h
    refine ⟨isConfiguration_of_ofEnvironment h, _, gives_iff.2 rfl, ?_⟩
    have hreading := reading_ofEnvironment env
    rw [h] at hreading
    exact hreading.names_variable

/-! ## The token -/

/-- The repository that an environment names. -/
def repositoryIn (env : Environment) : Except Failure Text :=
  let repository := trim ((env.lookup repositoryVariable).getD [])
  if repository.isEmpty then .error .repositoryUnset
  else if !isOwnerAndName repository then .error (.repositoryMalformed repository)
  else .ok repository

/-- A token: its characters can be printed and are in ASCII, and they are not all spaces. -/
structure IsToken (t : Text) : Prop where
  /-- The characters can be printed. -/
  printable : ∀ c ∈ t, 0x20 ≤ c.toNat ∧ c.toNat ≤ 0x7E
  /-- There is one that is not a space. -/
  nonblank : ∃ c ∈ t, c ≠ ' '

instance (t : Text) : Decidable (IsToken t) :=
  decidable_of_iff ((t.all fun c => 0x20 ≤ c.toNat && c.toNat ≤ 0x7E) = true ∧
      t.any (· != ' ') = true) (by
    simp only [List.all_eq_true, List.any_eq_true, Bool.and_eq_true, decide_eq_true_eq,
      bne_iff_ne]
    exact ⟨fun h => ⟨h.1, h.2⟩, fun h => ⟨h.1, h.2⟩⟩)

namespace IsToken

/-- The space is the only blank character that can be printed. -/
theorem isBlank_eq_false (h : IsToken t) {c : Char} (hc : c ∈ t) (hne : c ≠ ' ') :
    isBlank c = false := by
  obtain ⟨hlow, hhigh⟩ := h.printable c hc
  have hspace : c.toNat ≠ 0x20 := fun heq => hne (Char.toNat_inj.1 heq)
  simp only [isBlank, Bool.or_eq_false_iff, Bool.and_eq_false_iff, decide_eq_false_iff_not,
    beq_eq_false_iff_ne]
  omega

/-- Something is left of a token that is trimmed. -/
theorem trim_ne_nil (h : IsToken t) : trim t ≠ [] := by
  obtain ⟨c, hc, hne⟩ := h.nonblank
  exact List.ne_nil_of_mem (mem_dropEnds hc (h.isBlank_eq_false hc hne))

/-- What is left can be sent. -/
theorem isHeadText_trim (h : IsToken t) : Http.isHeadText (trim t) = true := by
  refine List.all_eq_true.2 fun c hc => ?_
  obtain ⟨-, hhigh⟩ := h.printable c ((dropEnds_infix_self isBlank t).subset hc)
  exact decide_eq_true (by omega)

end IsToken

/-- In an environment with a token the repository decides whether there is a context. -/
theorem ofEnvironment_of_token (ht : env.lookup tokenVariable = some t) (hne : trim t ≠ []) :
    ofEnvironment env = (repositoryIn env).map fun repository => ⟨repository, trim t⟩ := by
  have htoken : (trim ((env.lookup tokenVariable).getD [])).isEmpty = false := by
    rw [ht, Option.getD_some]
    exact List.isEmpty_eq_false_iff.2 hne
  unfold ofEnvironment repositoryIn
  dsimp only
  rw [htoken, ht, Option.getD_some]
  split
  · rfl
  · split <;> rfl

end RepositoryContext

end CommitCheck
