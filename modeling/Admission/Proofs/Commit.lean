import Admission.Proofs.Integrity
import Admission.Proofs.Trust.Effect

/-!
A commit is all or nothing, whatever changes somebody hands in: they may contradict one another,
list a signature twice or name what is not on file. If one of them does not fit, nothing is put in
(`commit_eq_error_iff`); otherwise each entry ends up under its own key, the last one where several
have the same (`Takes`), and nothing else is touched.
-/

namespace Admission

namespace Registry

variable {r r' : Registry} {c : TrustChanges} {e : RegistryError}

/-! ### Refused -/

/-- What is in the way of changes whose certificate is on file. Of the signatures that are not, the
    first one listed is told. -/
inductive Conflicts (r : Registry) (c : TrustChanges) : Conflict → Prop
  | attemptMissing (ha : r.attempts.find? c.attempt.fileKey = none) :
      Conflicts r c (.attemptMissing c.attempt.validationId)
  | attemptHasResult {att : VerificationAttempt}
      (ha : r.attempts.find? c.attempt.fileKey = some att) (hp : att.isPending = false) :
      Conflicts r c (.attemptHasResult c.attempt.validationId)
  | signatureMissing {att : VerificationAttempt} {before after : List Signature} {sig : Signature}
      (ha : r.attempts.find? c.attempt.fileKey = some att) (hp : att.isPending = true)
      (hl : c.invalidatedSignatures = before ++ sig :: after)
      (hbefore : ∀ s ∈ before, r.signatures.contains s.key = true)
      (hsig : r.signatures.contains sig.key = false) :
      Conflicts r c (.signatureMissing sig.key)

/-- Why changes are refused. The certificate is looked for before anything else. -/
inductive Refuses (r : Registry) (c : TrustChanges) : RegistryError → Prop
  | certificateNotFound (hc : r.certificates.contains c.certificate.key = false) :
      Refuses r c (.certificateNotFound c.certificate.key)
  | conflict {cause : Conflict} (hc : r.certificates.contains c.certificate.key = true)
      (h : r.Conflicts c cause) : Refuses r c (.conflict cause)

theorem refuses_of_commitError? (h : r.commitError? c = some e) : r.Refuses c e := by
  rw [commitError?] at h
  split at h
  · rename_i hc
    obtain rfl := Option.some.inj h
    exact .certificateNotFound (by simpa using hc)
  · rename_i hc
    have hc : r.certificates.contains c.certificate.key = true := by simpa using hc
    split at h
    · rename_i ha
      obtain rfl := Option.some.inj h
      exact .conflict hc (.attemptMissing ha)
    · rename_i att ha
      split at h
      · rename_i hp
        obtain rfl := Option.some.inj h
        exact .conflict hc (.attemptHasResult ha (by simpa using hp))
      · rename_i hp
        obtain ⟨sig, hfind, rfl⟩ := Option.map_eq_some_iff.1 h
        obtain ⟨hsig, before, after, hl, hbefore⟩ := List.find?_eq_some_iff_append.1 hfind
        exact .conflict hc (.signatureMissing ha (by simpa using hp) hl (by simpa using hbefore)
          (by simpa using hsig))

theorem Refuses.commitError?_eq (h : r.Refuses c e) : r.commitError? c = some e := by
  rw [commitError?]
  cases h with
  | certificateNotFound hc => simp [hc]
  | conflict hc h =>
    cases h with
    | attemptMissing ha => simp [hc, ha]
    | attemptHasResult ha hp => simp [hc, ha, hp]
    | @signatureMissing _ before _ sig ha hp hl hbefore hsig =>
      have hfind : (c.invalidatedSignatures.find? fun s => !r.signatures.contains s.key) =
          some sig :=
        List.find?_eq_some_iff_append.2 ⟨by simpa using hsig, before, _, hl, by simpa using hbefore⟩
      simp [hc, ha, hp, hfind]

theorem commit_eq_error_iff : r.commit c = .error e ↔ r.Refuses c e := by
  rw [Registry.commit]
  constructor
  · intro h
    split at h
    · rename_i he
      obtain rfl := Except.error.inj h
      exact refuses_of_commitError? he
    · cases h
  · intro h
    rw [h.commitError?_eq]

/-! ### Committed -/

/-- What a registry is once changes are committed. Under each key there is the last entry of the
    changes that has it, or else what was there before. -/
structure Takes (r : Registry) (c : TrustChanges) (r' : Registry) : Prop where
  certificates (k : CertificateKey) : r'.certificates.find? k =
    if k = c.certificate.key then some c.certificate else r.certificates.find? k
  attempts (k : AttemptKey) : r'.attempts.find? k =
    if k = c.attempt.fileKey then some c.attempt else r.attempts.find? k
  signatures (k : SignatureKey) : r'.signatures.find? k =
    (c.invalidatedSignatures.reverse.find? (·.key = k)).or (r.signatures.find? k)
  signingStates (k : PackageKey) : r'.signingStates.find? k =
    (c.signingStates.reverse.find? (·.packageKey = k)).or (r.signingStates.find? k)
  packages : r'.packages = r.packages
  validationSets : r'.validationSets = r.validationSets
  timestamps : r'.timestamps = r.timestamps
  staged : r'.staged = r.staged

theorem takes_put (r : Registry) (c : TrustChanges) : r.Takes c (r.put c) where
  certificates k := SortedMap.find?_insert r.certificates c.certificate.key k c.certificate
  attempts k := SortedMap.find?_insert r.attempts c.attempt.fileKey k c.attempt
  signatures := SortedMap.find?_foldl_insert _ _ _
  signingStates := SortedMap.find?_foldl_insert _ _ _
  packages := rfl
  validationSets := rfl
  timestamps := rfl
  staged := rfl

end Registry

namespace Session

/-- Changes are committed exactly if no failure is made for the call and what they name is on file
    with a pending attempt. Then the registry takes all of them and nothing else; otherwise the call
    is put on record and the session is as it was, and the error tells what is in the way. -/
theorem commit_all_or_nothing (s : Session) (c : TrustChanges) :
    let x := trustServices.commit c s
    (x.1 = .ok () ↔ s.fault? (.commit c) = none ∧ s.registry.Fits c) ∧
      (x.1 = .ok () → s.registry.Takes c x.2.registry) ∧
      ∀ e, x.1 = .error e → x.2 = s.noted [.commit c] [] ∧
        (s.fault? (.commit c) = none → s.registry.Refuses c e) := by
  simp only [run_commit]
  cases hf : s.fault? (.commit c) with
  | some f => exact ⟨⟨nofun, nofun⟩, nofun, fun e _ => ⟨rfl, nofun⟩⟩
  | none =>
    cases hr : s.registry.commit c with
    | error e =>
      have hunfit : ¬s.registry.Fits c := fun h => by
        rw [Registry.commit_eq_ok_iff.2 ⟨h, rfl⟩] at hr
        cases hr
      refine ⟨⟨nofun, fun h => absurd h.2 hunfit⟩, nofun, fun e' he => ⟨rfl, fun _ => ?_⟩⟩
      obtain rfl := Except.error.inj he
      exact Registry.commit_eq_error_iff.1 hr
    | ok registry =>
      obtain ⟨hfits, rfl⟩ := Registry.commit_eq_ok_iff.1 hr
      exact ⟨⟨fun _ => ⟨rfl, hfits⟩, fun _ => rfl⟩, fun _ => Registry.takes_put s.registry c, nofun⟩

/-- A certificate goes with an attempt for another one, a signature and a signing state are listed
    twice, and more signatures may follow. -/
def muddled (more : List Signature) : TrustChanges :=
  ⟨⟨1, "other", .good, 9, none⟩, ⟨.ofDigit 2, 2, some .revoked⟩,
    [⟨10, 7, 8, .invalid⟩, ⟨10, 100, 2, .valid⟩] ++ more, [⟨105, .invalid⟩, ⟨105, .valid⟩]⟩

/-- The muddled changes are committed, but not with a signature that is not on file. -/
theorem commit_all_or_nothing_muddled :
    let x := trustServices.commit (muddled []) .entangled
    let y := trustServices.commit (muddled [⟨99, 100, 1, .invalid⟩]) .entangled
    x.1 = .ok () ∧ Registry.entangled.Takes (muddled []) x.2.registry ∧
      x.2.registry.signatures.find? 10 = some ⟨10, 100, 2, .valid⟩ ∧
        x.2.registry.signingStates.find? 105 = some ⟨105, .valid⟩ ∧
          y.1 = .error (.conflict (.signatureMissing 99)) ∧
            y.2 = Session.entangled.noted [.commit (muddled [⟨99, 100, 1, .invalid⟩])] [] ∧
              Registry.entangled.Refuses (muddled [⟨99, 100, 1, .invalid⟩])
                (.conflict (.signatureMissing 99)) := by
  intro x y
  have hfits : Registry.entangled.Fits (muddled []) :=
    ⟨by decide +kernel, ⟨⟨.ofDigit 2, 2, none⟩, by decide +kernel, rfl⟩, by decide +kernel⟩
  have hy : y.1 = .error (.conflict (.signatureMissing 99)) := by decide +kernel
  obtain ⟨hok, htakes, -⟩ := commit_all_or_nothing .entangled (muddled [])
  obtain ⟨-, -, hrefused⟩ :=
    commit_all_or_nothing .entangled (muddled [⟨99, 100, 1, .invalid⟩])
  have hx : x.1 = .ok () := hok.2 ⟨rfl, hfits⟩
  have htaken := htakes hx
  exact ⟨hx, htaken, htaken.signatures 10, htaken.signingStates 105, hy, (hrefused _ hy).1,
    (hrefused _ hy).2 rfl⟩

end Session

end Admission
