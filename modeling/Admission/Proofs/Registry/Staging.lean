import Mathlib.Data.List.DropRight
import Admission.Proofs.Registry.Status

/-!
Staged statuses against statuses written at once. A run of updates and saves falls into what is
made up to its last commit point and what comes after it: the updates of the first part are in the
packages, in the order in which they were made, and those of the second part are staged
(`afterWrites_eq`). Which updates fail and which calls commit can be told from the registry at the
start, since no call brings a package in or takes one out.
-/

namespace Admission

/-- The calls by which the statuses of packages are set. -/
inductive StatusWrite where
  | update (package : Package) (status : PackageStatus) (commit : Bool)
  | save

namespace StatusWrite

/-- The status that a call sets and the key of its package, if the package is on file. -/
def change? (r : Registry) : StatusWrite → Option (PackageKey × PackageStatus)
  | update p status _ => if r.packages.contains p.key then some (p.key, status) else none
  | save => none

/-- Whether a call commits what is staged. An update that fails does not. -/
def commits (r : Registry) : StatusWrite → Bool
  | update p _ commit => r.packages.contains p.key && commit
  | save => true

/-- The call that sets the same status at once, if it sets one. -/
def direct? : StatusWrite → Option StatusWrite
  | update p status _ => some (update p status true)
  | save => none

theorem change?_eq_none_of_direct? {r : Registry} {w v : StatusWrite} (h : w.direct? = some v)
    (hv : v.commits r = false) : v.change? r = none := by
  cases w with
  | update p status commit =>
    obtain rfl := Option.some.inj h
    rw [commits, Bool.and_true] at hv
    rw [change?, hv]
    rfl
  | save => cases h

theorem bind_direct?_change? (r : Registry) (w : StatusWrite) :
    (w.direct?.bind fun v => v.change? r) = w.change? r := by
  cases w <;> rfl

end StatusWrite

namespace Registry

/-- What a call answers. -/
def write (r : Registry) : StatusWrite → Except RegistryError Registry
  | .update p status commit => r.updateStatus p status commit
  | .save => .ok r.saveChanges

/-- The registry after a call, which is as it was if the call fails. -/
def afterWrite (r : Registry) (w : StatusWrite) : Registry :=
  match r.write w with
  | .ok r' => r'
  | .error _ => r

/-- The registry after some calls, one after another. -/
def afterWrites (r : Registry) (ws : List StatusWrite) : Registry := ws.foldl afterWrite r

/-- The statuses set up to the last call that commits. -/
def committedBy (r : Registry) (ws : List StatusWrite) : List (PackageKey × PackageStatus) :=
  (ws.rdropWhile fun w => !w.commits r).filterMap (·.change? r)

/-- The statuses set since the last call that commits. -/
def uncommittedBy (r : Registry) (ws : List StatusWrite) : List (PackageKey × PackageStatus) :=
  (ws.rtakeWhile fun w => !w.commits r).filterMap (·.change? r)

variable {r r' : Registry} {ws : List StatusWrite} {w : StatusWrite} {p : Package}
  {status : PackageStatus} {commit : Bool}

/-! ### Calls told from the start -/

theorem change?_congr (h : ∀ k, r'.packages.contains k = r.packages.contains k) :
    w.change? r' = w.change? r := by
  cases w with
  | update p status commit => rw [StatusWrite.change?, StatusWrite.change?, h]
  | save => rfl

theorem commits_congr (h : ∀ k, r'.packages.contains k = r.packages.contains k) :
    w.commits r' = w.commits r := by
  cases w with
  | update p status commit => rw [StatusWrite.commits, StatusWrite.commits, h]
  | save => rfl

theorem filterMap_change?_concat (r : Registry) (ws : List StatusWrite) (w : StatusWrite) :
    (ws ++ [w]).filterMap (·.change? r) = ws.filterMap (·.change? r) ++ (w.change? r).toList := by
  rw [List.filterMap_append, List.filterMap_eq_flatMap_toList _ [w], List.flatMap_singleton]

theorem committedBy_append_uncommittedBy (r : Registry) (ws : List StatusWrite) :
    r.committedBy ws ++ r.uncommittedBy ws = ws.filterMap (·.change? r) := by
  rw [committedBy, uncommittedBy, ← List.filterMap_append, List.rdropWhile_append_rtakeWhile]

theorem committedBy_concat (r : Registry) (ws : List StatusWrite) (w : StatusWrite) :
    r.committedBy (ws ++ [w]) =
      if w.commits r then r.committedBy ws ++ (r.uncommittedBy ws ++ (w.change? r).toList)
      else r.committedBy ws := by
  rw [← List.append_assoc, committedBy_append_uncommittedBy, ← filterMap_change?_concat,
    committedBy, List.rdropWhile_concat]
  cases w.commits r <;> rfl

theorem uncommittedBy_concat (r : Registry) (ws : List StatusWrite) (w : StatusWrite) :
    r.uncommittedBy (ws ++ [w]) =
      if w.commits r then [] else r.uncommittedBy ws ++ (w.change? r).toList := by
  rw [uncommittedBy, List.rtakeWhile_concat]
  cases w.commits r with
  | true => rfl
  | false => exact filterMap_change?_concat r _ w

/-- Calls that write at once leave nothing staged. -/
theorem uncommittedBy_filterMap_direct? (r : Registry) (ws : List StatusWrite) :
    r.uncommittedBy (ws.filterMap (·.direct?)) = [] := by
  rw [uncommittedBy, List.filterMap_eq_nil_iff]
  intro v hv
  obtain ⟨w, -, hw⟩ := List.mem_filterMap.1 ((List.rtakeWhile_suffix _ _).subset hv)
  exact StatusWrite.change?_eq_none_of_direct? hw (by simpa using List.mem_rtakeWhile_imp hv)

/-! ### Runs -/

/-- A call stages its change, if it makes one, and what is staged then is committed or not. -/
theorem afterWrite_eq (r : Registry) (w : StatusWrite) :
    r.afterWrite w =
      if w.commits r then
        { r with
          packages := (r.staged ++ (w.change? r).toList).foldl setStatus r.packages
          staged := [] }
      else { r with staged := r.staged ++ (w.change? r).toList } := by
  rw [afterWrite]
  cases w with
  | save =>
    simp only [write, StatusWrite.commits, StatusWrite.change?, Option.toList_none, List.append_nil]
    rfl
  | update p status commit =>
    rw [write, updateStatus, StatusWrite.commits, StatusWrite.change?]
    cases r.packages.contains p.key with
    | true => cases commit <;> rfl
    | false => simp

theorem afterWrites_concat (r : Registry) (ws : List StatusWrite) (w : StatusWrite) :
    r.afterWrites (ws ++ [w]) = (r.afterWrites ws).afterWrite w := by
  rw [afterWrites, List.foldl_concat, afterWrites]

/-- Of a run that starts with nothing staged, the statuses set up to the last commit are in the
    packages and the others are staged. -/
theorem afterWrites_eq (hs : r.staged = []) (ws : List StatusWrite) :
    r.afterWrites ws =
      { r with
        packages := (r.committedBy ws).foldl setStatus r.packages
        staged := r.uncommittedBy ws } := by
  induction ws using List.reverseRecOn with
  | nil =>
    show r = { r with packages := r.packages, staged := [] }
    rw [← hs]
  | append_singleton ws w ih =>
    have hkeys := contains_foldl_setStatus (r.committedBy ws) r.packages
    rw [afterWrites_concat, ih, afterWrite_eq, commits_congr hkeys, change?_congr hkeys,
      committedBy_concat, uncommittedBy_concat]
    cases w.commits r with
    | true =>
      simp only [if_true]
      rw [List.foldl_append (l := r.committedBy ws)]
    | false => rfl

/-- The packages on file stay the same ones, so it can be told from the start which updates fail. -/
theorem contains_afterWrites (hs : r.staged = []) (ws : List StatusWrite) (k : PackageKey) :
    (r.afterWrites ws).packages.contains k = r.packages.contains k := by
  rw [afterWrites_eq hs, contains_foldl_setStatus]

/-- Once all is saved it is as if every status had been written at once. -/
theorem afterWrites_save_eq (hs : r.staged = []) (ws : List StatusWrite) :
    r.afterWrites (ws ++ [.save]) = r.afterWrites (ws.filterMap (·.direct?)) := by
  have hsave : StatusWrite.save.commits r = true := rfl
  have hdirect := committedBy_append_uncommittedBy r (ws.filterMap (·.direct?))
  rw [uncommittedBy_filterMap_direct?, List.append_nil, List.filterMap_filterMap] at hdirect
  simp only [StatusWrite.bind_direct?_change?] at hdirect
  rw [afterWrites_eq hs, afterWrites_eq hs, uncommittedBy_filterMap_direct?, hdirect,
    committedBy_concat, uncommittedBy_concat, if_pos hsave, if_pos hsave, StatusWrite.change?,
    Option.toList_none, List.append_nil, committedBy_append_uncommittedBy]

/-- Whatever statuses are set and saved in a registry that starts with nothing staged: the packages
    have the statuses set up to the last commit, the last one of each package; those set since are
    staged; nothing else changes. An update fails exactly if its package is not on file, and then it
    changes nothing. Once all is saved, the registry is what the same updates make of it when each
    of them commits. -/
theorem staging_refines_writing (r : Registry) (hs : r.staged = []) (ws : List StatusWrite) :
    let r' := r.afterWrites ws
    r' = { r with
        packages := (r.committedBy ws).foldl setStatus r.packages
        staged := r.uncommittedBy ws } ∧
      (∀ k, r'.packages.find? k = (r.packages.find? k).map fun p =>
        { p with status := ((r.committedBy ws).reverse.lookup k).getD p.status }) ∧
      r'.staged.length =
        (ws.rtakeWhile fun w => !w.commits r).countP (fun w => (w.change? r).isSome) ∧
      (∀ p status commit,
        (∀ e, r'.updateStatus p status commit = .error e ↔
          r.packages.contains p.key = false ∧ e = .packageNotFound p.id p.normalizedVersion) ∧
        (r.packages.contains p.key = false → r'.afterWrite (.update p status commit) = r')) ∧
      r.afterWrites (ws ++ [.save]) = r.afterWrites (ws.filterMap (·.direct?)) := by
  dsimp only
  refine ⟨afterWrites_eq hs ws, fun k => ?_, ?_, fun p status commit => ⟨fun e => ?_, fun hp => ?_⟩,
    afterWrites_save_eq hs ws⟩
  · rw [afterWrites_eq hs]
    exact find?_foldl_setStatus _ _ k
  · rw [afterWrites_eq hs]
    exact List.length_filterMap_eq_countP
  · rw [updateStatus_eq_error_iff, contains_afterWrites hs]
  · rw [← contains_afterWrites hs ws] at hp
    rw [afterWrite, write, updateStatus_eq_error_iff.2 ⟨hp, rfl⟩]

/-- Two packages on file. -/
def pair : Registry := .ofSnapshot
  { Snapshot.empty with
    packages := [⟨1, "Alpha", "1.0", "1.0.0", .validating⟩,
      ⟨2, "Beta", "2.0", "2.0.0", .validating⟩] }

/-- Three statuses are set and committed, another one is set later, and updates for a third package
    come in between. -/
def interleaved : List StatusWrite :=
  let stranger : Package := ⟨3, "Gamma", "3.0", "3.0.0", .validating⟩
  [.update ⟨1, "", "", "", .validating⟩ .available false,
    .update ⟨2, "", "", "", .validating⟩ .available false, .update stranger .available true,
    .update ⟨1, "", "", "", .validating⟩ .failedValidation true,
    .update ⟨2, "", "", "", .validating⟩ .failedValidation false,
    .update stranger .failedValidation true]

theorem staging_refines_writing_interleaved :
    let r' := pair.afterWrites interleaved
    pair.staged = [] ∧
      r'.packages.find? 1 = some ⟨1, "Alpha", "1.0", "1.0.0", .failedValidation⟩ ∧
        r'.packages.find? 2 = some ⟨2, "Beta", "2.0", "2.0.0", .available⟩ ∧
          r'.staged.length = 1 ∧
            r'.updateStatus ⟨3, "Gamma", "3.0", "3.0.0", .validating⟩ .available true =
                .error (.packageNotFound "Gamma" "3.0.0") ∧
              r'.afterWrite (.update ⟨3, "Gamma", "3.0", "3.0.0", .validating⟩ .available true) =
                  r' ∧
                pair.afterWrites (interleaved ++ [.save]) =
                  pair.afterWrites (interleaved.filterMap (·.direct?)) := by
  intro r'
  have hp : pair.packages.contains 3 = false := by decide
  obtain ⟨-, hpackages, hstaged, hupdate, hsaved⟩ := staging_refines_writing pair rfl interleaved
  obtain ⟨herror, hsame⟩ := hupdate ⟨3, "Gamma", "3.0", "3.0.0", .validating⟩ .available true
  exact ⟨rfl, (hpackages 1).trans (by decide +kernel), (hpackages 2).trans (by decide +kernel),
    hstaged.trans (by decide +kernel), (herror _).2 ⟨hp, rfl⟩, hsame hp, hsaved⟩

end Registry

end Admission
