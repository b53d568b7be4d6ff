import Admission.Proofs.Persistence
import Admission.Proofs.Session.Record
import Admission.Proofs.Trust.Effect

/-!
Reloading the registry between two pieces of work. A snapshot lists what a registry holds, the
validation sets in an order that is not settled where several have one creation time (`Lists`).
Filing the entries again gives the registry back, because each stands under its own key and nothing
is staged (`ofSnapshot_of_lists`); and a file gives the snapshot back that was saved in it. No piece
of work leaves anything staged. So a run in which the registry is reloaded before each piece, with a
file in between or without, cannot be told from one in which it is kept (`reloading_iff`).
-/

namespace Admission

/-! ### Snapshots -/

/-- The snapshot lists what the registry holds in key order, the validation sets in some order. -/
structure Snapshot.Lists (t : Snapshot) (r : Registry) : Prop where
  packages : t.packages = r.packages.values
  validationSets : t.validationSets.Perm r.validationSets.values
  certificates : t.certificates = r.certificates.values
  attempts : t.attempts = r.attempts.values
  signatures : t.signatures = r.signatures.values
  timestamps : t.timestamps = r.timestamps.values
  signingStates : t.signingStates = r.signingStates.values

/-- The one snapshot is the other with its validation sets in another order, or in the same. -/
def Snapshot.Reorders (t u : Snapshot) : Prop :=
  ∃ sets : List ValidationSet, sets.Perm t.validationSets ∧ u = { t with validationSets := sets }

/-- In which order a snapshot lists the validation sets is all the same. -/
theorem Snapshot.Lists.reorder {t u : Snapshot} {r : Registry} (h : t.Lists r)
    (hu : t.Reorders u) : u.Lists r := by
  obtain ⟨sets, hsets, rfl⟩ := hu
  exact { h with validationSets := hsets.trans h.validationSets }

namespace Registry

variable {r : Registry}

theorem lists_snapshot (r : Registry) : r.snapshot.Lists r where
  packages := rfl
  validationSets := List.mergeSort_perm _ _
  certificates := rfl
  attempts := rfl
  signatures := rfl
  timestamps := rfl
  signingStates := rfl

/-- Where nothing is staged, a registry is what its snapshot holds. -/
theorem ofSnapshot_of_lists (h : r.Filed) (hs : r.staged = []) {t : Snapshot} (ht : t.Lists r) :
    ofSnapshot t = r := by
  rw [ofSnapshot, ht.packages, ht.certificates, ht.attempts, ht.signatures, ht.timestamps,
    ht.signingStates, SortedMap.ofValues_values h.packages,
    SortedMap.ofValues_of_perm h.validationSets ht.validationSets,
    SortedMap.ofValues_values h.certificates, SortedMap.ofValues_values h.attempts,
    SortedMap.ofValues_values h.signatures, SortedMap.ofValues_values h.timestamps,
    SortedMap.ofValues_values h.signingStates, ← hs]

end Registry

/-! ### Runs -/

/-- What a piece of work answers. -/
inductive Answer where
  | handled (result : Except ReconcileError ReconcileOutcome)
  | processed (after : Package) (result : Except ReconcileError ReconcileOutcome)
  | saved (result : Except TrustError Bool)
  | none

/-- What a piece of work tells: its answer, and the calls, log entries and metrics it records. -/
abbrev Tale := Answer × List Call × List LogEntry × List Metric

namespace Session

/-- What a piece of work answers in a session. -/
def answer (s : Session) : Work → Answer
  | .handle policy m => .handled (handle policy m s).1
  | .process policy set p => .processed (process policy set p s).1.1 (process policy set p s).1.2
  | .save maximum m result => .saved (save maximum m result s).1
  | _ => .none

/-- What a piece of work tells in a session. -/
def tale (s : Session) (w : Work) : Tale := (s.answer w, s.recordedIn (.work w))

/-- What each piece of some work tells, one after another. -/
def tales : Session → List Work → List Tale
  | _, [] => []
  | s, w :: ws => s.tale w :: tales (s.step w) ws

/-- The session with its registry rebuilt from a snapshot of it, which may list the validation sets
    in any order, as it was taken or as it is read from the file it was saved in. -/
def Reloads (s s' : Session) : Prop :=
  ∃ t u : Snapshot, s.registry.snapshot.Reorders t ∧
    (u = t ∨ Snapshot.ofBytes? t.toBytes = some u) ∧ s' = s.withRegistry (.ofSnapshot u)

/-- A run in which the registry is reloaded before each piece of work, with what the pieces tell and
    the session in the end. -/
inductive Reloading : Session → List Work → List Tale → Session → Prop
  | done {s : Session} : Reloading s [] [] s
  | step {s t s' : Session} {w : Work} {ws : List Work} {told : List Tale} (h : s.Reloads t)
      (rest : Reloading (t.step w) ws told s') : Reloading s (w :: ws) (t.tale w :: told) s'

variable {s s' t : Session}

theorem Steady.step (h : s.Steady) (w : Work) : (s.step w).Steady := h.round (.work w)

/-- Reloading a registry with nothing staged changes nothing. -/
theorem Steady.reloads_iff (h : s.Steady) : s.Reloads t ↔ t = s := by
  have hsame {u : Snapshot} (hu : s.registry.snapshot.Reorders u) :
      s.withRegistry (.ofSnapshot u) = s := by
    rw [Registry.ofSnapshot_of_lists h.filed h.staged (s.registry.lists_snapshot.reorder hu)]
    rfl
  constructor
  · rintro ⟨u, v, hu, hv, rfl⟩
    rw [Snapshot.ofBytes?_toBytes] at hv
    rcases hv with rfl | ⟨⟨⟩⟩
    · exact hsame hu
    · exact hsame hu
  · rintro rfl
    have hself : t.registry.snapshot.Reorders t.registry.snapshot := ⟨_, .refl _, rfl⟩
    exact ⟨_, _, hself, .inl rfl, (hsame hself).symm⟩

/-- With the registry reloaded before each piece of work, whatever order the snapshots are in, a run
    tells the same and ends in the same session as with the registry kept. -/
theorem reloading_iff (h : s.Steady) {ws : List Work} {told : List Tale} :
    s.Reloading ws told s' ↔ told = s.tales ws ∧ s' = s.run ws := by
  induction ws generalizing s told with
  | nil =>
    constructor
    · rintro ⟨⟩
      exact ⟨rfl, rfl⟩
    · rintro ⟨rfl, rfl⟩
      exact .done
  | cons w ws ih =>
    constructor
    · rintro (_ | ⟨hload, hrest⟩)
      obtain rfl := h.reloads_iff.1 hload
      obtain ⟨rfl, rfl⟩ := (ih (h.step w)).1 hrest
      exact ⟨rfl, rfl⟩
    · rintro ⟨rfl, rfl⟩
      exact .step (h.reloads_iff.2 rfl) ((ih (h.step w)).2 ⟨rfl, rfl⟩)

end Session

/-! ### Two packages with sets of one creation time -/

/-- Two packages whose sets were made at the same time, and a certificate that one of them is signed
    with. -/
def Snapshot.paired : Snapshot :=
  { packages := [⟨1, "Alpha", "1.0", "1.0.0", .validating⟩,
      ⟨2, "alpha", "1.0", "1.0.0", .validating⟩]
    validationSets := [⟨.ofDigit 1, "ALPHA", "1.0.0", .epoch, [⟨.ofDigit 3, "scan", .failed, []⟩]⟩,
      ⟨.ofDigit 2, "Alpha", "1.0.0", .epoch, []⟩]
    certificates := [⟨1, "one", .good, 0, none⟩]
    attempts := [⟨.ofDigit 4, 1, none⟩]
    signatures := [⟨10, 1, 1, .valid⟩]
    timestamps := [⟨20, 10, 1, .firstMinute⟩]
    signingStates := [⟨1, .valid⟩] }

/-- A session on the two packages. -/
def Session.paired : Session := .start (.ofSnapshot .paired) .empty .epoch

/-- A revocation that is refused once, and a package that fails. -/
def Work.rejectPaired : List Work :=
  [.setFaults [("commit", ⟨.conflict, "busy"⟩)], .save 5 ⟨1, .ofDigit 4⟩ (.revoked .epoch),
    .setFaults [], .save 5 ⟨1, .ofDigit 4⟩ (.revoked .epoch), .setClock .firstMinute,
    .handle (.new .zero 3) ⟨.ofDigit 1, "Alpha", "1.0"⟩]

theorem Session.reloading_iff_paired :
    Session.paired.Steady ∧
      (∃ t u : Snapshot, Session.paired.registry.snapshot.Reorders t ∧
        Session.paired.registry.snapshot.Reorders u ∧ t ≠ u) ∧
        ((Session.paired.run Work.rejectPaired).registry.packages.values.map (·.status) =
            [.failedValidation, .validating] ∧
          (Session.paired.run Work.rejectPaired).registry.signatures.values.map (·.status) =
            [.invalid]) ∧
          Session.paired.Reloading Work.rejectPaired (Session.paired.tales Work.rejectPaired)
            (Session.paired.run Work.rejectPaired) := by
  have hs : Session.paired.Steady := ⟨Registry.filed_ofSnapshot _, rfl⟩
  have hsets := Session.paired.registry.lists_snapshot.validationSets.symm
  refine ⟨hs, ⟨_, _, ⟨_, hsets, rfl⟩, ⟨_, (List.reverse_perm _).trans hsets, rfl⟩, fun heq => ?_⟩,
    ⟨by decide +kernel, by decide +kernel⟩, (reloading_iff hs).2 ⟨rfl, rfl⟩⟩
  have hreversed : Session.paired.registry.validationSets.values =
      Session.paired.registry.validationSets.values.reverse := congrArg Snapshot.validationSets heq
  exact absurd hreversed (by decide +kernel)

end Admission
