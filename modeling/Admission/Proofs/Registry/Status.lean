import Admission.Proofs.Registry.Filed

/-!
The statuses of the packages on file. A status that is set and committed is what the package has
then, whatever else was staged (`status?_updateStatus_self`); where nothing was staged, every other
package keeps its own, whether it is looked up by its key (`find?_updateStatus`) or by what a
validation set calls it (`package?_updateStatus`).
-/

namespace Admission.Registry

/-- The status of the package under a key. -/
def status? (r : Registry) (k : PackageKey) : Option PackageStatus :=
  (r.packages.find? k).map (·.status)

variable {r r' : Registry} {p : Package} {status : PackageStatus}

theorem status?_of_find? {q : Package} (hq : r.packages.find? p.key = some q) :
    r.status? p.key = some q.status := by
  rw [status?, hq, Option.map_some]

theorem contains_of_status?_eq_some {k : PackageKey} (h : r.status? k = some status) :
    r.packages.contains k = true := by
  obtain ⟨q, hq, -⟩ := Option.map_eq_some_iff.1 h
  exact SortedMap.contains_iff.2 ⟨q, hq⟩

theorem status?_congr (h : r'.packages = r.packages) (k : PackageKey) :
    r'.status? k = r.status? k := by
  rw [status?, status?, h]

theorem find?_setStatus (m : SortedMap PackageKey Package) (change : PackageKey × PackageStatus)
    (k : PackageKey) :
    (setStatus m change).find? k =
      if k = change.1 then (m.find? k).map fun p => { p with status := change.2 }
      else m.find? k := by
  rw [setStatus]
  cases hm : m.find? change.1 with
  | none =>
    dsimp only
    split
    · rename_i hk
      rw [hk, hm, Option.map_none]
    · rfl
  | some p =>
    dsimp only
    rw [SortedMap.find?_insert]
    split
    · rename_i hk
      rw [hk, hm, Option.map_some]
    · rfl

/-- Of several statuses set for one package the last stays. -/
theorem find?_foldl_setStatus (changes : List (PackageKey × PackageStatus))
    (m : SortedMap PackageKey Package) (k : PackageKey) :
    (changes.foldl setStatus m).find? k =
      (m.find? k).map fun p => { p with status := (changes.reverse.lookup k).getD p.status } := by
  induction changes generalizing m with
  | nil => exact Option.map_id'.symm
  | cons c changes ih =>
    obtain ⟨key, status⟩ := c
    rw [List.foldl_cons, ih, find?_setStatus, List.reverse_cons, List.lookup_append]
    by_cases hk : k = key
    · have hlast : [(key, status)].lookup k = some status := by rw [hk, List.lookup_cons_self]
      rw [if_pos hk, hlast, Option.map_map]
      cases changes.reverse.lookup k <;> rfl
    · have hlast : [(key, status)].lookup k = none := List.lookup_eq_none_iff.2 (by simpa using hk)
      rw [if_neg hk, hlast, Option.or_none]

/-- Setting statuses neither adds packages nor takes any away. -/
theorem contains_foldl_setStatus (changes : List (PackageKey × PackageStatus))
    (m : SortedMap PackageKey Package) (k : PackageKey) :
    (changes.foldl setStatus m).contains k = m.contains k := by
  rw [SortedMap.contains, find?_foldl_setStatus, Option.isSome_map, SortedMap.contains]

/-- A status is set exactly for a package on file, after all that was staged before. -/
theorem updateStatus_eq_ok_iff :
    r.updateStatus p status true = .ok r' ↔
      r.packages.contains p.key = true ∧
        r' = { r with
          packages := setStatus (r.staged.foldl setStatus r.packages) (p.key, status)
          staged := [] } := by
  rw [updateStatus]
  split
  · rename_i hc
    simp only [if_true, saveChanges, List.foldl_append, List.foldl_cons, List.foldl_nil,
      Except.ok.injEq, hc, true_and]
    exact eq_comm
  · rename_i hc
    simp [hc]

/-- Setting a status fails exactly if the package is not on file. -/
theorem updateStatus_eq_error_iff {commit : Bool} {e : RegistryError} :
    r.updateStatus p status commit = .error e ↔
      r.packages.contains p.key = false ∧ e = .packageNotFound p.id p.normalizedVersion := by
  rw [updateStatus]
  cases r.packages.contains p.key <;> simp [eq_comm]

theorem staged_updateStatus (h : r.updateStatus p status true = .ok r') : r'.staged = [] := by
  obtain ⟨-, rfl⟩ := updateStatus_eq_ok_iff.1 h
  rfl

theorem status?_updateStatus_self (h : r.updateStatus p status true = .ok r') :
    r'.status? p.key = some status := by
  obtain ⟨hc, rfl⟩ := updateStatus_eq_ok_iff.1 h
  rw [← contains_foldl_setStatus r.staged, SortedMap.contains_iff] at hc
  obtain ⟨q, hq⟩ := hc
  rw [status?, find?_setStatus, if_pos rfl, hq]
  rfl

theorem find?_updateStatus (hs : r.staged = []) (h : r.updateStatus p status true = .ok r')
    (k : PackageKey) :
    r'.packages.find? k =
      if k = p.key then (r.packages.find? k).map fun q => { q with status }
      else r.packages.find? k := by
  obtain ⟨-, rfl⟩ := updateStatus_eq_ok_iff.1 h
  rw [hs]
  exact find?_setStatus r.packages (p.key, status) k

/-- A status that is set shows wherever its package is found. -/
theorem package?_updateStatus (hf : r.Filed) (hs : r.staged = [])
    (h : r.updateStatus p status true = .ok r') (id version : String) :
    r'.package? id version =
      (r.package? id version).map fun q => if q.key = p.key then { q with status } else q := by
  have hvalues : r'.packages.values =
      r.packages.values.map fun q => if q.key = p.key then { q with status } else q := by
    refine SortedMap.values_eq_map fun k => ?_
    rw [find?_updateStatus hs h]
    cases hq : r.packages.find? k with
    | none => simp
    | some q =>
      have hk : q.key = k := hf.packages.key_eq hq
      simp only [Option.map_some, hk]
      split <;> rfl
  rw [package?, package?, hvalues, List.find?_map]
  congr 2
  funext q
  simp only [Function.comp_apply]
  split <;> rfl

theorem status?_updateStatus_of_ne (hs : r.staged = [])
    (h : r.updateStatus p status true = .ok r') {k : PackageKey} (hk : k ≠ p.key) :
    r'.status? k = r.status? k := by
  rw [status?, find?_updateStatus hs h, if_neg hk, status?]

/-- What verification results bear on is as it was. -/
structure Undisturbed (r r' : Registry) : Prop where
  certificates : r'.certificates = r.certificates
  attempts : r'.attempts = r.attempts
  signatures : r'.signatures = r.signatures
  timestamps : r'.timestamps = r.timestamps
  signingStates : r'.signingStates = r.signingStates

theorem Undisturbed.refl (r : Registry) : r.Undisturbed r := ⟨rfl, rfl, rfl, rfl, rfl⟩

/-- Setting a status has to do with packages only. -/
theorem Undisturbed.of_updateStatus {commit : Bool}
    (hr : r.updateStatus p status commit = .ok r') : r.Undisturbed r' := by
  rw [updateStatus] at hr
  split at hr
  · obtain rfl := Except.ok.inj hr
    cases commit <;> exact ⟨rfl, rfl, rfl, rfl, rfl⟩
  · cases hr

end Admission.Registry
