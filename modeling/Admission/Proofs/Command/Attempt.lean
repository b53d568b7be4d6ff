import Admission.Command.Attempt
import Admission.Proofs.Persistence

/-!
How a sequence of attempts runs on a machine, and what loading and saving a snapshot is there.
-/

namespace Admission

open Machine

namespace Command

variable {α β ε : Type} {x : Attempt (StateM Machine) α} {f : α → Attempt (StateM Machine) β}
  {s s' : Machine}

theorem run_bind_of_ok {a : α} (h : x.run s = (.ok a, s')) : (x >>= f).run s = (f a).run s' := by
  show (x >>= f) s = f a s'
  replace h : x s = (.ok a, s') := h
  simp only [bind, ExceptT.bind, ExceptT.mk, StateT.bind, h, ExceptT.bindCont]

theorem run_bind_of_error {e : CommandError} (h : x.run s = (.error e, s')) :
    (x >>= f).run s = (.error e, s') := by
  show (x >>= f) s = _
  replace h : x s = (.error e, s') := h
  simp only [bind, ExceptT.bind, ExceptT.mk, StateT.bind, h, ExceptT.bindCont]
  rfl

/-- A sequence succeeds if each of its attempts does. -/
theorem run_bind_eq_ok_iff {b : β} : (x >>= f).run s = (.ok b, s') ↔
    ∃ a s₁, x.run s = (.ok a, s₁) ∧ (f a).run s₁ = (.ok b, s') := by
  cases h : x.run s with
  | mk result s₁ =>
    cases result with
    | ok a =>
      rw [run_bind_of_ok h]
      constructor
      · exact fun hf => ⟨a, s₁, rfl, hf⟩
      · rintro ⟨_, _, ⟨⟩, hf⟩
        exact hf
    | error e =>
      rw [run_bind_of_error h]
      constructor
      · rintro ⟨⟩
      · rintro ⟨_, _, ⟨⟩, -⟩

theorem mapError_eq_ok_iff {ε' : Type} {tell : ε → ε'} {result : Except ε α} {a : α} :
    result.mapError tell = .ok a ↔ result = .ok a := by
  cases result with
  | error e => exact ⟨nofun, nofun⟩
  | ok b =>
    constructor
    · rintro ⟨⟩
      rfl
    · rintro ⟨⟩
      rfl

theorem run_attempt (tell : ε → CommandError) (act : StateM Machine (Except ε α)) (s : Machine) :
    (attempt tell act).run s = ((act s).1.mapError tell, (act s).2) := rfl

theorem run_require (tell : ε → CommandError) (result : Except ε α) (s : Machine) :
    (require tell result : Attempt (StateM Machine) α).run s = (result.mapError tell, s) := rfl

theorem run_lift (act : StateM Machine α) (s : Machine) :
    (ExceptT.lift act : Attempt (StateM Machine) α).run s = (.ok (act s).1, (act s).2) := rfl

/-! ### Snapshots in files -/

/-- Loading a snapshot leaves the machine as it is, and succeeds if the file holds one. -/
theorem run_loadSnapshot (path : String) (s : Machine) :
    ∃ result, (attempt (.loadSnapshot path) (Snapshot.load host path)).run s = (result, s) ∧
      ∀ snap, result = .ok snap ↔
        ∃ content, s.files.read path = .ok content ∧ Snapshot.ofBytes? content = some snap := by
  obtain ⟨hloaded, hsame⟩ := Snapshot.run_load path s
  refine ⟨_, (run_attempt _ _ s).trans (congrArg (Prod.mk _) hsame), fun snap => ?_⟩
  exact mapError_eq_ok_iff.trans (hloaded snap)

/-- Saving a snapshot is writing its file. -/
theorem run_saveSnapshot (path : String) (snap : Snapshot) (s : Machine) :
    (∃ files, s.files.write path snap.toBytes = .ok files ∧
      (attempt (.saveSnapshot path) (snap.save host path)).run s = (.ok (), s.withFiles files)) ∨
    ∃ e, s.files.write path snap.toBytes = .error e ∧
      ∃ e', (attempt (.saveSnapshot path) (snap.save host path)).run s = (.error e', s) := by
  rw [run_attempt, Snapshot.run_save]
  cases h : s.files.write path snap.toBytes with
  | ok files => exact .inl ⟨files, rfl, rfl⟩
  | error e => exact .inr ⟨e, rfl, _, rfl⟩

end Command

end Admission
