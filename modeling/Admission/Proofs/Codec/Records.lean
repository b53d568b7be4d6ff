import Admission.Codec.Config
import Admission.Codec.Graph
import Admission.Codec.Message
import Admission.Codec.Snapshot
import Admission.Proofs.Codec.Fields
import Admission.Proofs.Filing

/-!
The records of a registry, the messages and the configuration, written and read again.
-/

namespace Admission

open Codec Json Text

/-! ### Alternatives -/

theorem PackageStatus.faithful : Faithful ofJson? toJson where
  restores s := by cases s <;> rfl
  written s := by cases s <;> exact .str _

theorem ValidationStatus.faithful : Faithful ofJson? toJson where
  restores s := by cases s <;> rfl
  written s := by cases s <;> exact .str _

theorem ValidationIssue.faithful : Faithful ofJson? toJson where
  restores i := by cases i <;> rfl
  written i := by cases i <;> exact .str _

theorem CertificateStatus.faithful : Faithful ofJson? toJson where
  restores s := by cases s <;> rfl
  written s := by cases s <;> exact .str _

theorem SignatureStatus.faithful : Faithful ofJson? toJson where
  restores s := by cases s <;> rfl
  written s := by cases s <;> exact .str _

theorem SigningStatus.faithful : Faithful ofJson? toJson where
  restores s := by cases s <;> rfl
  written s := by cases s <;> exact .str _

theorem FailureBehavior.faithful : Faithful ofJson? toJson where
  restores b := by cases b <;> rfl
  written b := by cases b <;> exact .str _

/-! ### Records of a registry -/

theorem Package.faithful : Faithful ofJson? toJson := by
  refine faithful_record (by decide) (fun _ => rfl) (fun p => ?_) fun p => ?_
  · simp only [List.forall_mem_cons]
    exact ⟨faithful_int64.written _, .str _, .str _, .str _, PackageStatus.faithful.written _,
      nofun⟩
  · simp only [List.map_cons, List.map_nil, bind_required faithful_int64,
      bind_required faithful_text, bind_required PackageStatus.faithful]
    rfl

theorem Validation.faithful : Faithful ofJson? toJson := by
  have hissues := faithful_list ValidationIssue.faithful
  refine faithful_record (by decide) (fun _ => rfl) (fun v => ?_) fun v => ?_
  · simp only [List.forall_mem_cons]
    exact ⟨faithful_uuid.written _, .str _, ValidationStatus.faithful.written _, hissues.written _,
      nofun⟩
  · simp only [List.map_cons, List.map_nil, bind_required faithful_uuid,
      bind_required faithful_text, bind_required ValidationStatus.faithful,
      bind_withDefault hissues]
    rfl

theorem ValidationSet.faithful : Faithful ofJson? toJson := by
  have hvalidations := faithful_list Validation.faithful
  refine faithful_record (by decide) (fun _ => rfl) (fun s => ?_) fun s => ?_
  · simp only [List.forall_mem_cons]
    exact ⟨faithful_uuid.written _, .str _, .str _, faithful_instant.written _,
      hvalidations.written _, nofun⟩
  · simp only [List.map_cons, List.map_nil, bind_required faithful_uuid,
      bind_required faithful_text, bind_required faithful_instant, bind_withDefault hvalidations]
    rfl

theorem Certificate.faithful : Faithful ofJson? toJson := by
  have htime := faithful_nullable faithful_instant fun t => by simp [ofInstant]
  refine faithful_record (by decide) (fun _ => rfl) (fun c => ?_) fun c => ?_
  · simp only [List.forall_mem_cons]
    exact ⟨faithful_int64.written _, .str _, CertificateStatus.faithful.written _,
      faithful_uint32.written _, htime.written _, nofun⟩
  · simp only [List.map_cons, List.map_nil, bind_required faithful_int64,
      bind_required faithful_text, bind_withDefault CertificateStatus.faithful,
      bind_withDefault faithful_uint32, bind_withDefault htime]
    rfl

theorem VerificationAttempt.faithful : Faithful ofJson? toJson := by
  have hstatus := faithful_nullable CertificateStatus.faithful fun s => by
    cases s <;> simp [CertificateStatus.toJson]
  refine faithful_record (by decide) (fun _ => rfl) (fun a => ?_) fun a => ?_
  · simp only [List.forall_mem_cons]
    exact ⟨faithful_uuid.written _, faithful_int64.written _, hstatus.written _, nofun⟩
  · simp only [List.map_cons, List.map_nil, bind_required faithful_uuid,
      bind_required faithful_int64, bind_withDefault hstatus]
    rfl

theorem Signature.faithful : Faithful ofJson? toJson := by
  refine faithful_record (by decide) (fun _ => rfl) (fun s => ?_) fun s => ?_
  · simp only [List.forall_mem_cons]
    exact ⟨faithful_int64.written _, faithful_int64.written _, faithful_int64.written _,
      SignatureStatus.faithful.written _, nofun⟩
  · simp only [List.map_cons, List.map_nil, bind_required faithful_int64,
      bind_required SignatureStatus.faithful]
    rfl

theorem TrustedTimestamp.faithful : Faithful ofJson? toJson := by
  refine faithful_record (by decide) (fun _ => rfl) (fun t => ?_) fun t => ?_
  · simp only [List.forall_mem_cons]
    exact ⟨faithful_int64.written _, faithful_int64.written _, faithful_int64.written _,
      faithful_instant.written _, nofun⟩
  · simp only [List.map_cons, List.map_nil, bind_required faithful_int64,
      bind_required faithful_instant]
    rfl

theorem SigningState.faithful : Faithful ofJson? toJson := by
  refine faithful_record (by decide) (fun _ => rfl) (fun s => ?_) fun s => ?_
  · simp only [List.forall_mem_cons]
    exact ⟨faithful_int64.written _, SigningStatus.faithful.written _, nofun⟩
  · simp only [List.map_cons, List.map_nil, bind_required faithful_int64,
      bind_required SigningStatus.faithful]
    rfl

theorem Snapshot.faithful : Faithful ofJson? toJson := by
  have hpackages := faithful_list Package.faithful
  have hsets := faithful_list ValidationSet.faithful
  have hcertificates := faithful_list Certificate.faithful
  have hattempts := faithful_list VerificationAttempt.faithful
  have hsignatures := faithful_list Signature.faithful
  have htimestamps := faithful_list TrustedTimestamp.faithful
  have hstates := faithful_list SigningState.faithful
  refine faithful_record (by decide) (fun _ => rfl) (fun s => ?_) fun s => ?_
  · simp only [List.forall_mem_cons]
    exact ⟨hpackages.written _, hsets.written _, hcertificates.written _, hattempts.written _,
      hsignatures.written _, htimestamps.written _, hstates.written _, nofun⟩
  · simp only [List.map_cons, List.map_nil, bind_withDefault hpackages, bind_withDefault hsets,
      bind_withDefault hcertificates, bind_withDefault hattempts, bind_withDefault hsignatures,
      bind_withDefault htimestamps, bind_withDefault hstates]
    rfl

/-! ### Messages -/

theorem ValidationMessage.faithful : Faithful ofJson? toJson := by
  refine faithful_record (by decide) (fun _ => rfl) (fun m => ?_) fun m => ?_
  · simp only [List.forall_mem_cons]
    exact ⟨faithful_uuid.written _, .str _, .str _, nofun⟩
  · simp only [List.map_cons, List.map_nil, bind_required faithful_uuid,
      bind_required faithful_text]
    rfl

theorem CertificateMessage.faithful : Faithful ofJson? toJson := by
  refine faithful_record (by decide) (fun _ => rfl) (fun m => ?_) fun m => ?_
  · simp only [List.forall_mem_cons]
    exact ⟨faithful_int64.written _, faithful_uuid.written _, nofun⟩
  · simp only [List.map_cons, List.map_nil, bind_required faithful_int64,
      bind_required faithful_uuid]
    rfl

/-! ### Configurations -/

namespace ValidatorConfig

theorem record?_toJson (v : ValidatorConfig) :
    record? fieldNames v.toJson = some [some (.str v.name), some (.bool v.required),
      some v.failureBehavior.toJson, v.recheckPeriodSecs.map ofUInt64,
      if v.requiredValidations.isEmpty then none
        else some (ofList Json.str v.requiredValidations)] := by
  obtain ⟨name, required, behavior, period, prerequisites⟩ := v
  cases period <;> cases prerequisites <;> exact record?_record (by simp) _

/-- A field that is left out is read as what it is left out for. -/
theorem restores_toJson : Restores ofJson? toJson := by
  intro v
  have hperiod : withDefault none (nullable uint64?) (v.recheckPeriodSecs.map ofUInt64) =
      some v.recheckPeriodSecs := by
    have hnullable := faithful_nullable faithful_uint64 fun n => by simp [ofUInt64]
    cases v.recheckPeriodSecs with
    | none => rfl
    | some n =>
      rw [Option.map_some, withDefault]
      exact hnullable.restores (some n)
  have hprerequisites : withDefault [] (list? text?) (if v.requiredValidations.isEmpty then none
      else some (ofList Json.str v.requiredValidations)) = some v.requiredValidations := by
    cases v.requiredValidations with
    | nil => rfl
    | cons p ps => exact (faithful_list faithful_text).restores (p :: ps)
  rw [ofJson?, bind_of_eq_some v.record?_toJson]
  simp only [bind_required faithful_text, bind_withDefault faithful_bool,
    bind_withDefault FailureBehavior.faithful, bind_of_eq_some hperiod,
    bind_of_eq_some hprerequisites]
  rfl

theorem written_toJson (v : ValidatorConfig) : v.toJson.Written := by
  have hprerequisites := (faithful_list faithful_text).written v.requiredValidations
  obtain ⟨name, required, behavior, period, prerequisites⟩ := v
  refine written_record ?_ ?_
  · cases period <;> cases prerequisites <;> simp <;> decide
  · simp only [List.forall_mem_append, List.forall_mem_cons]
    refine ⟨⟨⟨.str _, .bool _, FailureBehavior.faithful.written _, nofun⟩, ?_⟩, ?_⟩
    · cases period with
      | none => nofun
      | some n => exact List.forall_mem_singleton.2 (.int _)
    · cases prerequisites with
      | nil => nofun
      | cons p ps => exact List.forall_mem_singleton.2 hprerequisites

theorem faithful : Faithful ofJson? toJson := ⟨restores_toJson, written_toJson⟩

end ValidatorConfig

theorem ValidationConfig.faithful : Faithful ofJson? toJson := by
  have hvalidators := faithful_list ValidatorConfig.faithful
  refine faithful_record (by decide) (fun _ => rfl) (fun v => ?_) fun v => ?_
  · simp only [List.forall_mem_cons]
    exact ⟨faithful_uint64.written _, hvalidators.written _, nofun⟩
  · simp only [List.map_cons, List.map_nil, bind_withDefault faithful_uint64,
      bind_withDefault hvalidators]
    rfl

theorem CertificateConfig.faithful : Faithful ofJson? toJson := by
  refine faithful_record (by decide) (fun _ => rfl) (fun c => ?_) fun c => ?_
  · simp only [List.forall_mem_cons]
    exact ⟨faithful_uint32.written _, nofun⟩
  · simp only [List.map_cons, List.map_nil, bind_withDefault faithful_uint32]
    rfl

theorem Config.faithful : Faithful ofJson? toJson := by
  refine faithful_record (by decide) (fun _ => rfl) (fun c => ?_) fun c => ?_
  · simp only [List.forall_mem_cons]
    exact ⟨ValidationConfig.faithful.written _, CertificateConfig.faithful.written _, nofun⟩
  · simp only [List.map_cons, List.map_nil, bind_withDefault ValidationConfig.faithful,
      bind_withDefault CertificateConfig.faithful]
    rfl

/-! ### Trust graphs -/

namespace TrustGraph

variable {α : Type} {read : Json → Option α} {write : α → Json}

theorem keyOfName?_toString (k : Int64) : keyOfName? ⟨toString k.toInt, true⟩ = some k := by
  have hdigits : (Nat.repr k.toInt.natAbs).toList.filter Char.isDigit =
      (Nat.repr k.toInt.natAbs).toList :=
    List.filter_eq_self.2 fun _ => isDigit_of_mem_repr
  have hhead : (Nat.repr k.toInt.natAbs).toList.head? ≠ some '-' := by
    intro h
    cases isDigit_of_mem_repr (List.mem_of_mem_head? h)
  have hvalue : (if (toString k.toInt).toList.head? == some '-' then
      -(decimalValue ((toString k.toInt).toList.filter Char.isDigit) : Int)
      else decimalValue ((toString k.toInt).toList.filter Char.isDigit)) = k.toInt := by
    rw [toList_toString]
    split
    · rw [List.filter_cons_of_neg (by decide), hdigits, decimalValue_repr, List.head?_cons,
        if_pos (by decide)]
      omega
    · rw [hdigits, decimalValue_repr, if_neg (by simpa using hhead)]
      omega
  simp only [keyOfName?, hvalue]
  rw [if_pos (by simp), ofInt64?_toInt]

theorem printsPlainly_toString (n : Int) : printsPlainly (toString n) = true := by
  have hdigits : ∀ c ∈ (Nat.repr n.natAbs).toList, (escapeChar c == [c]) = true :=
    fun c hc => beq_iff_eq.2 (escapeChar_of_isDigit (isDigit_of_mem_repr hc))
  rw [printsPlainly, toList_toString, List.all_eq_true]
  split
  · exact List.forall_mem_cons.2 ⟨by decide, hdigits⟩
  · exact hdigits

theorem faithful_map (h : Faithful read write) : Faithful (mapOfJson? read) (jsonOfMap write) where
  restores m := by
    have hentry : Restores (fun m : MemberName × Json => do return (← keyOfName? m.1, ← read m.2))
        fun e : Int64 × α => (⟨toString e.1.toInt, true⟩, write e.2) := by
      intro e
      simp only [keyOfName?_toString, h.restores _]
      rfl
    have hentries := hentry.mapM m.entries
    rw [jsonOfMap, record, mapOfJson?, List.map_map]
    exact (bind_of_eq_some hentries _).trans (congrArg some m.ofList_entries)
  written m := by
    refine written_record ?_ ?_
    · simp only [List.map_map, List.forall_mem_map]
      exact fun e _ => printsPlainly_toString _
    · simp only [List.forall_mem_map]
      exact fun e _ => h.written _

theorem faithful : Faithful ofJson? toJson := by
  have hsignatures := faithful_map Signature.faithful
  have htimestamps := faithful_map TrustedTimestamp.faithful
  have hstates := faithful_map SigningState.faithful
  refine faithful_record (by decide) (fun _ => rfl) (fun g => ?_) fun g => ?_
  · simp only [List.forall_mem_cons]
    exact ⟨hsignatures.written _, htimestamps.written _, hstates.written _, nofun⟩
  · simp only [List.map_cons, List.map_nil, bind_required hsignatures, bind_required htimestamps,
      bind_required hstates]
    rfl

end TrustGraph

/-! ### Verification results -/

namespace VerificationResult

theorem ofJson?_toJson_revoked (t : Instant) :
    ofJson? (toJson (.revoked t)) = some (.revoked t) := by
  have htag : tagged? (toJson (.revoked t)) =
      some ("revoked", .record [("revocation_time", ofInstant t)]) := rfl
  have hheld : isHeld (.record [("revocation_time", ofInstant t)]) = true := rfl
  have htime : record? ["revocation_time"] (.record [("revocation_time", ofInstant t)]) =
      some [some (ofInstant t)] := rfl
  rw [ofJson?, bind_of_eq_some htag]
  simp only [hheld, bind_of_eq_some htime]
  exact bind_required faithful_instant t _

theorem faithful : Faithful ofJson? toJson where
  restores r := by
    cases r with
    | revoked t => exact ofJson?_toJson_revoked t
    | _ => rfl
  written r := by
    cases r with
    | revoked t =>
      refine written_record
        (show ∀ name ∈ ["result", "revocation_time"], printsPlainly name = true by decide) ?_
      simp only [List.forall_mem_cons]
      exact ⟨.str _, faithful_instant.written _, nofun⟩
    | _ => exact written_record (by decide) (List.forall_mem_singleton.2 (.str _))

end VerificationResult

end Admission
