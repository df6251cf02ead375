import CommitCheck.Http.Client
import CommitCheck.Proofs.Url.Parse

/-!
# The address of the first request

A text that is asked is read as an address.  If that is whole, with a scheme and a host, and its
host can be sent, it is the address of the first request (`start_eq_ok_iff`).  If it is not whole,
the request goes to no host and has no scheme, so it is refused before it is sent.
-/

namespace CommitCheck.Http

variable {address : Text} {u p : Url}

theorem orInvalid_eq_ok_iff {α : Type} {x : Except UrlFault α} {a : α} :
    orInvalid x = .ok a ↔ x = .ok a := by
  cases x <;> simp [orInvalid]

/-- A response is what the network answers at an address that can be asked, whatever its head
says. -/
theorem reply_eq_ok_iff {network : Network} {r : Response} :
    reply network u = .ok r ↔ isWebScheme u.scheme = true ∧
      network u.text = .received r.status r.location r.body := by
  unfold reply
  cases isWebScheme u.scheme with
  | false => simp
  | true =>
    cases network u.text with
    | received status location body =>
      obtain ⟨status', location', body'⟩ := r
      simp
    | failure trouble message => simp
    | unencodable => simp

theorem askable_eq_ok_iff :
    askable p = .ok u ↔ (∃ name, hostOf p = .ok name) ∧ isHeadText p.host = true ∧ p = u := by
  unfold askable
  rw [Result.bind_eq_ok_iff]
  constructor
  · rintro ⟨name, hname, h⟩
    split at h
    · rename_i hhead
      exact ⟨⟨name, hname⟩, hhead, Except.ok.inj h⟩
    · cases h
  · rintro ⟨⟨name, hname⟩, hhead, rfl⟩
    exact ⟨name, hname, if_pos hhead⟩

/-- The address of the first request is what the text writes, or it has no host. -/
theorem start_eq_ok_iff : start address = .ok u ↔ ∃ p, Url.parse address = .ok p ∧
    (isWhole p = .ok true ∧ askable p = .ok u ∨ isWhole p = .ok false ∧ u = p.withoutHost) := by
  unfold start
  constructor
  · intro h
    obtain ⟨p, hparse, h⟩ := Result.bind_eq_ok_iff.1 h
    obtain ⟨whole, hwhole, h⟩ := Result.bind_eq_ok_iff.1 h
    refine ⟨p, orInvalid_eq_ok_iff.1 hparse, ?_⟩
    cases whole with
    | true => exact .inl ⟨hwhole, h⟩
    | false => exact .inr ⟨hwhole, (Except.ok.inj h).symm⟩
  · rintro ⟨p, hparse, ⟨hwhole, h⟩ | ⟨hwhole, rfl⟩⟩
    · exact Result.bind_eq_ok_iff.2 ⟨p, orInvalid_eq_ok_iff.2 hparse,
        Result.bind_eq_ok_iff.2 ⟨true, hwhole, h⟩⟩
    · exact Result.bind_eq_ok_iff.2 ⟨p, orInvalid_eq_ok_iff.2 hparse,
        Result.bind_eq_ok_iff.2 ⟨false, hwhole, rfl⟩⟩

/-- A text that is asked is not too long. -/
theorem length_le_of_start (h : start address = .ok u) : address.length ≤ Url.lengthLimit := by
  obtain ⟨p, hparse, -⟩ := start_eq_ok_iff.1 h
  exact (Url.textFault?_eq_none_iff.1 (Url.parse_eq_ok_iff.1 hparse).1).1

/-- A text that is asked by a scheme of the web writes the address of the first request. -/
theorem parse_of_start (h : start address = .ok u) (hweb : isWebScheme u.scheme = true) :
    Url.parse address = .ok u ∧ isWhole u = .ok true ∧ askable u = .ok u := by
  obtain ⟨p, hparse, ⟨hwhole, haskable⟩ | ⟨-, rfl⟩⟩ := start_eq_ok_iff.1 h
  · obtain ⟨-, -, rfl⟩ := askable_eq_ok_iff.1 haskable
    exact ⟨hparse, hwhole, haskable⟩
  · cases hweb

theorem ne_nil_of_isWebScheme {scheme : Text} (h : isWebScheme scheme = true) : scheme ≠ [] := by
  rintro rfl
  cases h

/-- A whole address has a host. -/
theorem host_ne_nil_of_isWhole (h : isWhole u = .ok true) : u.host ≠ [] := by
  intro hnil
  have hname : hostOf u = .ok [] := by
    unfold hostOf Url.hostName
    rw [hnil]
    rfl
  unfold isWhole at h
  rw [hname] at h
  split at h <;> cases h

end CommitCheck.Http
