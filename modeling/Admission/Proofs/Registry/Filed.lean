import Admission.Proofs.Filing
import Admission.Registry.Trust

/-!
Registries whose entries all stand under their own keys. A registry read from a snapshot is of that
kind (`filed_ofSnapshot`), and it stays so whatever status is set and whatever changes are committed
to it, so every registry that the program holds is one.
-/

namespace Admission.Registry

/-- Every entry stands under its own key. -/
structure Filed (r : Registry) : Prop where
  packages : r.packages.Filed (·.key)
  validationSets : r.validationSets.Filed (·.trackingId)
  certificates : r.certificates.Filed (·.key)
  attempts : r.attempts.Filed (·.fileKey)
  signatures : r.signatures.Filed (·.key)
  timestamps : r.timestamps.Filed (·.key)
  signingStates : r.signingStates.Filed (·.packageKey)

variable {r : Registry}

theorem filed_ofSnapshot (s : Snapshot) : (ofSnapshot s).Filed where
  packages := SortedMap.filed_ofValues _ _
  validationSets := SortedMap.filed_ofValues _ _
  certificates := SortedMap.filed_ofValues _ _
  attempts := SortedMap.filed_ofValues _ _
  signatures := SortedMap.filed_ofValues _ _
  timestamps := SortedMap.filed_ofValues _ _
  signingStates := SortedMap.filed_ofValues _ _

/-! ### Setting statuses -/

theorem filed_setStatus {m : SortedMap PackageKey Package} (h : m.Filed (·.key))
    (change : PackageKey × PackageStatus) : (setStatus m change).Filed (·.key) := by
  rw [setStatus]
  split
  · rename_i p hp
    have hk : p.key = change.1 := h.key_eq hp
    exact h.insert_of_eq hk
  · exact h

theorem filed_foldl_setStatus (changes : List (PackageKey × PackageStatus)) :
    ∀ {m : SortedMap PackageKey Package}, m.Filed (·.key) →
      (changes.foldl setStatus m).Filed (·.key) := by
  induction changes with
  | nil => intro m h; exact h
  | cons c changes ih => intro m h; exact ih (filed_setStatus h c)

theorem Filed.saveChanges (h : r.Filed) : r.saveChanges.Filed :=
  { h with packages := filed_foldl_setStatus r.staged h.packages }

theorem Filed.updateStatus (h : r.Filed) {p : Package} {status : PackageStatus} {commit : Bool}
    {r' : Registry} (hr : r.updateStatus p status commit = .ok r') : r'.Filed := by
  rw [Registry.updateStatus] at hr
  split at hr
  · obtain rfl := Except.ok.inj hr
    split
    · exact Filed.saveChanges { h with }
    · exact { h with }
  · cases hr

/-- Where nothing is staged, a status that is set and committed is all that changes. -/
theorem updateStatus_of_staged_nil (hs : r.staged = []) {p q : Package} {status : PackageStatus}
    (hq : r.packages.find? p.key = some q) :
    r.updateStatus p status true =
      .ok { r with packages := r.packages.insert p.key { q with status } } := by
  have hc : r.packages.contains p.key = true := SortedMap.contains_iff.2 ⟨q, hq⟩
  simp [updateStatus, hc, saveChanges, hs, setStatus, hq]

/-! ### Committing changes -/

theorem Filed.put (h : r.Filed) (c : TrustChanges) : (r.put c).Filed where
  packages := h.packages
  validationSets := h.validationSets
  certificates := h.certificates.insert c.certificate
  attempts := h.attempts.insert c.attempt
  signatures := .foldl_insert c.invalidatedSignatures h.signatures
  timestamps := h.timestamps
  signingStates := .foldl_insert c.signingStates h.signingStates

section Untouched

variable (r) (c : TrustChanges)

@[simp] theorem packages_put : (r.put c).packages = r.packages := rfl
@[simp] theorem validationSets_put : (r.put c).validationSets = r.validationSets := rfl
@[simp] theorem timestamps_put : (r.put c).timestamps = r.timestamps := rfl
@[simp] theorem staged_put : (r.put c).staged = r.staged := rfl

end Untouched

/-- What is committed is put in whole. -/
theorem put_of_commit {c : TrustChanges} {r' : Registry} (hr : r.commit c = .ok r') :
    r' = r.put c := by
  rw [commit] at hr
  split at hr
  · cases hr
  · exact (Except.ok.inj hr).symm

end Admission.Registry
