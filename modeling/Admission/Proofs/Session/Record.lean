import Admission.Proofs.Session.Ignoring
import Admission.Proofs.Session.Rounds

/-!
What a session has on record does not bear on what it does. An action is oblivious if it does the
same with any past put before the record it finds, and leaves that past as it is (`Oblivious`). To
put a past there spares all that the services work on, so every piece of work is oblivious, and over
a run two sessions that differ in nothing but their records do the same in every round
(`Alike.rounds`).
-/

namespace Admission

namespace Session

variable {α : Type} {s s' : Session}

/-- The session with the record of another one before its own. -/
def after (s past : Session) : Session :=
  { s with
    calls := past.calls ++ s.calls
    logs := past.logs ++ s.logs
    metrics := past.metrics ++ s.metrics }

/-- The session with nothing on record. -/
def unrecorded (s : Session) : Session := { s with calls := [], logs := [], metrics := [] }

theorem after_unrecorded (s : Session) : s.unrecorded.after s = s := by
  simp [after, unrecorded]

theorem noted_after (s past : Session) (cs : List Call) (ls : List LogEntry) :
    (s.after past).noted cs ls = (s.noted cs ls).after past := by
  simp [noted, after, List.append_assoc]

theorem reporting_after (s past : Session) (ts : List Telemetry) :
    (s.after past).reporting ts = (s.reporting ts).after past := by
  simp [reporting, after, List.append_assoc]

/-! ### Oblivious actions -/

/-- The action does the same whatever is on record before. -/
def Oblivious (x : StateM Session α) : Prop :=
  ∀ s past, x (s.after past) = ((x s).1, (x s).2.after past)

theorem recasting_after (past : Session) : Recasting (·.after past) id where
  registry _ := rfl
  withRegistry _ _ := rfl
  fault? _ _ := rfl
  noted s cs ls := (noted_after s past cs ls).symm
  reporting s ts := (reporting_after s past ts).symm

theorem sparesOutcomes_after (past : Session) : SparesOutcomes (·.after past) id where
  toRecasting := recasting_after past
  validationSets _ := rfl
  packages _ := rfl
  updateStatus _ _ _ _ := (congrFun Except.map_id _).symm
  validationFiles _ := rfl
  withValidationFiles _ _ := rfl
  publicFiles _ := rfl
  withPublicFiles _ _ := rfl
  clock _ := rfl

theorem sparesTrust_after (past : Session) : SparesTrust (·.after past) id where
  toRecasting := recasting_after past
  pendingAttempt? _ _ _ := rfl
  certificates _ := rfl
  loadTrustGraph _ _ := rfl
  commit _ _ := (congrFun Except.map_id _).symm

theorem oblivious_handle (policy : Policy) (m : ValidationMessage) : Oblivious (handle policy m) :=
  fun s past => ignores_handle (sparesOutcomes_after past) policy m s

theorem oblivious_process (policy : Policy) (set : ValidationSet) (p : Package) :
    Oblivious (process policy set p) :=
  fun s past => ignores_process (sparesOutcomes_after past) policy set p s

theorem oblivious_save (maximum : UInt32) (m : CertificateMessage) (result : VerificationResult) :
    Oblivious (save maximum m result) :=
  fun s past => ignores_save (sparesTrust_after past) maximum m result s

/-! ### Rounds -/

/-- What a round adds to the record: calls, log entries and metrics. -/
def recordedIn (s : Session) (t : Round) : List Call × List LogEntry × List Metric :=
  (s.callsIn t, (s.round t).logs.drop s.logs.length, (s.round t).metrics.drop s.metrics.length)

/-- A round leaves the past alone. -/
theorem round_after (s past : Session) (t : Round) :
    (s.after past).round t = (s.round t).after past := by
  cases t with
  | work w =>
    cases w with
    | handle policy m => exact congrArg Prod.snd (oblivious_handle policy m s past)
    | process policy set p => exact congrArg Prod.snd (oblivious_process policy set p s past)
    | save maximum m result => exact congrArg Prod.snd (oblivious_save maximum m result s past)
    | setClock => rfl
    | setFaults => rfl
    | submit => rfl
  | replaceSets => rfl

/-- The two sessions differ in nothing but what they have on record. -/
def Alike (s s' : Session) : Prop := s.unrecorded = s'.unrecorded

theorem alike_noted (s : Session) (cs : List Call) (ls : List LogEntry) : (s.noted cs ls).Alike s :=
  rfl

/-- What an oblivious action answers is told without the record. -/
theorem Oblivious.answer_unrecorded {x : StateM Session α} (hx : Oblivious x) (s : Session) :
    (x s).1 = (x s.unrecorded).1 := by
  conv_lhs => rw [← s.after_unrecorded, hx]

theorem round_unrecorded (s : Session) (t : Round) :
    s.round t = (s.unrecorded.round t).after s := by
  conv_lhs => rw [← s.after_unrecorded, round_after]

theorem recordedIn_unrecorded (s : Session) (t : Round) :
    s.recordedIn t =
      ((s.unrecorded.round t).calls, (s.unrecorded.round t).logs,
        (s.unrecorded.round t).metrics) := by
  rw [recordedIn, callsIn, round_unrecorded]
  simp only [after, List.drop_left]

section Alike

variable (h : s.Alike s')

include h

theorem Alike.registry : s.registry = s'.registry := by
  show s.unrecorded.registry = s'.unrecorded.registry
  rw [h]

theorem Alike.validationFiles : s.validationFiles = s'.validationFiles := by
  show s.unrecorded.validationFiles = s'.unrecorded.validationFiles
  rw [h]

theorem Alike.publicFiles : s.publicFiles = s'.publicFiles := by
  show s.unrecorded.publicFiles = s'.unrecorded.publicFiles
  rw [h]

theorem Alike.answer {x : StateM Session α} (hx : Oblivious x) : (x s).1 = (x s').1 := by
  rw [hx.answer_unrecorded s, hx.answer_unrecorded s', h]

theorem Alike.recordedIn (t : Round) : s.recordedIn t = s'.recordedIn t := by
  rw [recordedIn_unrecorded, recordedIn_unrecorded, h]

theorem Alike.round (t : Round) : (s.round t).Alike (s'.round t) := by
  rw [round_unrecorded s, round_unrecorded s', h]
  rfl

end Alike

theorem Alike.rounds (h : s.Alike s') (ts : List Round) : (s.rounds ts).Alike (s'.rounds ts) := by
  induction ts generalizing s s' with
  | nil => exact h
  | cons t ts ih => exact ih (h.round t)

end Session

end Admission
