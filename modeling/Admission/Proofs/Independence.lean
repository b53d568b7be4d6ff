import Admission.Proofs.Session.Record
import Admission.Proofs.Trust.Rounds

/-!
Handling messages and saving verification results do not see each other. They share a registry, but
each keeps to its own side of it: packages, validation sets and what is staged, with the files, on
the one; certificates, attempts, signatures, timestamps and signing states on the other. So each
ignores it when the other side is exchanged (`ignores_handle`, `ignores_save`), neither touches the
other side (`alike_handle`, `alike_save`), and whichever comes first, both answer the same, make the
same calls, and leave the same registry and the same files (`handle_save_comm`).
-/

namespace Admission

namespace Registry

/-- The packages and validation sets of one registry, with what is staged there, and the rest of
    another. -/
def beside (r t : Registry) : Registry :=
  { t with packages := r.packages, validationSets := r.validationSets, staged := r.staged }

variable {r t : Registry}

theorem Undisturbed.beside_eq (h : r.Undisturbed t) : t.beside r = t := by
  cases r
  cases t
  cases h
  simp_all [beside]

theorem updateStatus_beside (p : Package) (status : PackageStatus) (commit : Bool) :
    (r.beside t).updateStatus p status commit =
      (r.updateStatus p status commit).map (·.beside t) := by
  have hcontains : (r.beside t).packages.contains p.key = r.packages.contains p.key := rfl
  rw [updateStatus, updateStatus, hcontains]
  split
  · cases commit <;> rfl
  · rfl

theorem commit_beside (c : TrustChanges) :
    (r.beside t).commit c = (t.commit c).map (r.beside ·) := by
  have herror : (r.beside t).commitError? c = t.commitError? c := rfl
  rw [commit, commit, herror]
  cases t.commitError? c <;> rfl

end Registry

namespace Session

variable {s s' : Session} {policy : Policy} {set : ValidationSet} {p after : Package}

/-! ### Exchanging one side -/

/-- The session with the certificates, attempts, signatures, timestamps and signing states of
    another registry. -/
def withTrustOf (s : Session) (t : Registry) : Session := s.withRegistry (s.registry.beside t)

/-- The session with the packages, validation sets, staged changes and files of another one. -/
def withOutcomesOf (s o : Session) : Session :=
  ((s.withRegistry (o.registry.beside s.registry)).withValidationFiles
    o.validationFiles).withPublicFiles o.publicFiles

theorem sparesOutcomes_withTrustOf (t : Registry) :
    SparesOutcomes (·.withTrustOf t) (·.beside t) where
  registry _ := rfl
  withRegistry _ _ := rfl
  fault? _ _ := rfl
  noted _ _ _ := rfl
  reporting _ _ := rfl
  validationSets _ := rfl
  packages _ := rfl
  updateStatus _ := Registry.updateStatus_beside
  validationFiles _ := rfl
  withValidationFiles _ _ := rfl
  publicFiles _ := rfl
  withPublicFiles _ _ := rfl
  clock _ := rfl

theorem sparesTrust_withOutcomesOf (o : Session) :
    SparesTrust (·.withOutcomesOf o) (o.registry.beside ·) where
  registry _ := rfl
  withRegistry _ _ := rfl
  fault? _ _ := rfl
  noted _ _ _ := rfl
  reporting _ _ := rfl
  pendingAttempt? _ _ _ := rfl
  certificates _ := rfl
  loadTrustGraph _ _ := rfl
  commit _ := Registry.commit_beside

/-! ### What each side leaves of the other -/

/-- Neither the failures nor the clock differ. -/
def SameSetting (s s' : Session) : Prop := s'.faults = s.faults ∧ s'.clock = s.clock

theorem Publishing.sameSetting {answer : Except ReconcileError Unit}
    (h : Publishing s p answer s') : s.SameSetting s' := by
  cases h <;> exact ⟨rfl, rfl⟩

theorem Applying.sameSetting {answer : Except ReconcileError (Option Instant)}
    (h : Applying s policy set p after answer s') : s.SameSetting s' := by
  cases h with
  | unpublished _ hp => exact hp.sameSetting
  | promoted _ hp => exact hp.sameSetting
  | _ => exact ⟨rfl, rfl⟩

theorem Processing.sameSetting {answer : Except ReconcileError ReconcileOutcome}
    (h : Processing s policy set p after answer s') : s.SameSetting s' := by
  cases h with
  | beyond ha => exact ha.sameSetting
  | reported _ ha => exact ha.sameSetting

theorem Handling.sameSetting {m : ValidationMessage}
    {answer : Except ReconcileError ReconcileOutcome} (h : Handling s policy m answer s') :
    s.SameSetting s' := by
  cases h with
  | processed _ _ h => exact h.sameSetting
  | _ => exact ⟨rfl, rfl⟩

theorem alike_of_eq (hr : s.registry = s'.registry) (hv : s.validationFiles = s'.validationFiles)
    (hp : s.publicFiles = s'.publicFiles) (hset : s'.SameSetting s) : s.Alike s' := by
  rw [Alike, unrecorded, unrecorded, hr, hv, hp, hset.1, hset.2]

/-- Handling a message changes nothing but packages, files and what is staged. -/
theorem alike_handle (policy : Policy) (m : ValidationMessage) (s : Session) :
    (handle policy m s).2.Alike (s.withOutcomesOf (handle policy m s).2) :=
  alike_of_eq (moves_handle policy m s).undisturbed.beside_eq.symm rfl rfl
    (handling policy m s).sameSetting

/-- Saving a result changes nothing but certificates, attempts, signatures and signing states. -/
theorem alike_save (maximum : UInt32) (m : CertificateMessage) (result : VerificationResult)
    (s : Session) :
    (save maximum m result s).2.Alike (s.withTrustOf (save maximum m result s).2.registry) := by
  have hsave := saving maximum m result s
  generalize save maximum m result s = x at hsave ⊢
  obtain ⟨answer, s'⟩ := x
  cases hsave with
  | saved _ _ _ hr =>
    obtain rfl := Registry.put_of_commit hr
    rfl
  | _ => rfl

/-! ### In either order -/

/-- Whatever the state of the session, it does not matter whether a message is handled or a result
    is saved first: each answers the same and puts the same on record, and the registry and the
    files end up the same. -/
theorem handle_save_comm (s : Session) (policy : Policy) (m : ValidationMessage) (maximum : UInt32)
    (cm : CertificateMessage) (result : VerificationResult) :
    let h := Round.work (.handle policy m)
    let v := Round.work (.save maximum cm result)
    (handle policy m (s.round v)).1 = (handle policy m s).1 ∧
      (save maximum cm result (s.round h)).1 = (save maximum cm result s).1 ∧
      (s.round v).recordedIn h = s.recordedIn h ∧ (s.round h).recordedIn v = s.recordedIn v ∧
      ((s.round h).round v).registry = ((s.round v).round h).registry ∧
      ((s.round h).round v).validationFiles = ((s.round v).round h).validationFiles ∧
      ((s.round h).round v).publicFiles = ((s.round v).round h).publicFiles := by
  intro h v
  have hbefore : (s.round h).Alike (s.withOutcomesOf (s.round h)) := alike_handle policy m s
  have vbefore : (s.round v).Alike (s.withTrustOf (s.round v).registry) :=
    alike_save maximum cm result s
  -- What each does on the session as the other leaves it is what it does on the session, recast.
  have hrecast := ignores_handle (sparesOutcomes_withTrustOf (s.round v).registry) policy m s
  have vrecast := ignores_save (sparesTrust_withOutcomesOf (s.round h)) maximum cm result s
  have hround : (s.withTrustOf (s.round v).registry).round h =
      (s.round h).withTrustOf (s.round v).registry := congrArg Prod.snd hrecast
  have vround : (s.withOutcomesOf (s.round h)).round v = (s.round v).withOutcomesOf (s.round h) :=
    congrArg Prod.snd vrecast
  have hafter : ((s.round v).round h).Alike ((s.round h).withTrustOf (s.round v).registry) :=
    hround ▸ vbefore.round h
  have vafter : ((s.round h).round v).Alike ((s.round v).withOutcomesOf (s.round h)) :=
    vround ▸ hbefore.round v
  have hrecord : (s.withTrustOf (s.round v).registry).recordedIn h = s.recordedIn h := by
    rw [recordedIn, callsIn, hround]
    rfl
  have vrecord : (s.withOutcomesOf (s.round h)).recordedIn v = s.recordedIn v := by
    rw [recordedIn, callsIn, vround]
    rfl
  refine ⟨?_, ?_, (vbefore.recordedIn h).trans hrecord, (hbefore.recordedIn v).trans vrecord,
    vafter.registry.trans hafter.registry.symm,
    vafter.validationFiles.trans hafter.validationFiles.symm,
    vafter.publicFiles.trans hafter.publicFiles.symm⟩
  · rw [vbefore.answer (oblivious_handle policy m), hrecast]
  · rw [hbefore.answer (oblivious_save maximum cm result), vrecast]

end Session

end Admission
