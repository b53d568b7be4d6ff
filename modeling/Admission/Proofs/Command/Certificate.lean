import Admission.Command.Certificate
import Admission.Proofs.Command.Attempt
import Admission.Proofs.Command.Services
import Admission.Proofs.Config.Acceptance
import Admission.Proofs.Files.Tree
import Admission.Proofs.Reloading

/-!
The command that saves a verification result either writes the registry that saving the result
comes to, or leaves all files alone (`certifying`). Which of the two is settled before anything is
written: the configuration has to be accepted, the result well-formed, and the snapshot readable,
and the attempt that is last in it under its key pending, with its certificate there (`Savable`).
-/

namespace Admission

open Machine

/-- Whether a snapshot holds a certificate and a pending attempt of it. Of several attempts under
    one key the last one counts. -/
def Snapshot.Awaits (snap : Snapshot) (m : CertificateMessage) : Prop :=
  (∃ a, snap.attempts.reverse.find? (fun a => a.fileKey = (m.certificateKey, m.validationId)) =
      some a ∧ a.isPending = true) ∧
    ∃ c ∈ snap.certificates, c.key = m.certificateKey

theorem Snapshot.awaits_iff {snap : Snapshot} {m : CertificateMessage} :
    snap.Awaits m ↔ (Registry.ofSnapshot snap).Resolves m := by
  rw [Awaits, Registry.Resolves, Registry.ofSnapshot, SortedMap.contains, SortedMap.find?_ofValues,
    SortedMap.find?_ofValues, and_comm]
  simp [VerificationAttempt.isPending]

/-- The registry of a snapshot has a plan for a result just if the snapshot awaits one. -/
theorem Registry.isSome_plan?_ofSnapshot (snap : Snapshot) (maximum : UInt32)
    (m : CertificateMessage) (result : VerificationResult) :
    ((ofSnapshot snap).plan? maximum m result).isSome = true ↔ snap.Awaits m := by
  rw [Option.isSome_iff_ne_none, Ne, plan?_eq_none_iff (filed_ofSnapshot snap), not_not,
    Snapshot.awaits_iff]

namespace Command

variable {config : Config} {args : CertificateArguments} {result : VerificationResult}
  {maximum : UInt32} {r : Registry}

/-- A result is well-formed if a time is given just for a revocation, and is one. -/
theorem exists_verificationResult_iff {choice : ResultChoice} {revokedAt : Option String} :
    (∃ result, verificationResult choice revokedAt = .ok result) ↔
      (revokedAt.isSome = true ↔ choice = .revoked) ∧
        ∀ text ∈ revokedAt, (Instant.ofStrictText? text).isSome = true := by
  cases revokedAt with
  | none => cases choice <;> simp [verificationResult]
  | some text =>
    cases choice with
    | revoked =>
      rw [verificationResult]
      cases h : Instant.ofStrictText? text <;> simp [h]
    | good => simp [verificationResult]
    | invalid => simp [verificationResult]
    | unknown => simp [verificationResult]

/-- What the command speaks of. -/
def message (args : CertificateArguments) : CertificateMessage := ⟨args.certificate, args.attempt⟩

/-- Saving a result in a registry settles it there if there is a plan for it, and fails if not. -/
theorem run_saveInRegistry (hr : r.Filed) (maximum : UInt32) (args : CertificateArguments)
    (result : VerificationResult) (s : Machine) :
    ∃ s', s'.files = s.files ∧
      (saveInRegistry host maximum args result r).run s =
        (if (r.plan? maximum (message args) result).isSome = true then
            .ok (r.settle maximum (message args) result)
          else .error (.noPendingAttempt args.certificate args.attempt), s') := by
  have hanswers : Answers (saveResult (trustServices host) maximum (message args) result) r _ _ :=
    answers_saveResult hr
  obtain ⟨hanswer, hfiles⟩ := hanswers s
  have hlift : (ExceptT.lift (saveResult (trustServices host) maximum (message args) result r) :
      Attempt (StateM Machine) _).run s = _ :=
    (run_lift _ s).trans (congrArg (fun a => (Except.ok a, _)) hanswer)
  refine ⟨_, hfiles, (run_bind_of_ok hlift).trans ((run_bind_of_ok (run_require _ _ _)).trans ?_)⟩
  cases (r.plan? maximum (message args) result).isSome <;> rfl

/-- Whether there is a result that can be saved in the snapshot file. -/
def Savable (config : Config) (args : CertificateArguments) (t : FileTree) : Prop :=
  config.validate = .ok () ∧
    (∃ result, verificationResult args.result args.revokedAt = .ok result) ∧
    ∃ content snap, t.read args.snapshot = .ok content ∧ Snapshot.ofBytes? content = some snap ∧
      snap.Awaits (message args)

/-- With all else in order, what counts is whether the snapshot awaits the result. -/
theorem savable_iff {t : FileTree} {content : ByteArray} {snap : Snapshot}
    (hconfig : config.validate = .ok ())
    (hresult : verificationResult args.result args.revokedAt = .ok result)
    (hread : t.read args.snapshot = .ok content) (hsnap : Snapshot.ofBytes? content = some snap) :
    Savable config args t ↔ snap.Awaits (message args) := by
  constructor
  · rintro ⟨-, -, content', snap', hread', hsnap', hawaits⟩
    cases hread.symm.trans hread'
    cases hsnap.symm.trans hsnap'
    exact hawaits
  · exact fun hawaits => ⟨hconfig, ⟨result, hresult⟩, content, snap, hread, hsnap, hawaits⟩

/-- What the command can end in, and what it leaves of the files. -/
inductive Certifying (config : Config) (args : CertificateArguments) (t : FileTree) :
    Except CommandError Unit → FileTree → Prop
  | refused (e : CommandError) (h : ¬Savable config args t) : Certifying config args t (.error e) t
  | saved {result : VerificationResult} {content : ByteArray} {snap : Snapshot} {files : FileTree}
      (hconfig : config.validate = .ok ())
      (hresult : verificationResult args.result args.revokedAt = .ok result)
      (hread : t.read args.snapshot = .ok content) (hsnap : Snapshot.ofBytes? content = some snap)
      (hawaits : snap.Awaits (message args))
      (hwrite : t.write args.snapshot ((Registry.ofSnapshot snap).settle
        config.certificates.maximumValidationFailures (message args) result).snapshot.toBytes =
          .ok files) :
      Certifying config args t (.ok ()) files

/-- The command saves the result or changes no file. -/
theorem certifying (config : Config) (args : CertificateArguments) (s : Machine) :
    Certifying config args s.files ((certificate host config args).run s).1
      ((certificate host config args).run s).2.files := by
  rw [certificate]
  cases hpolicy : Policy.ofConfig config with
  | error e =>
    rw [run_bind_of_error (run_require _ _ _)]
    refine .refused _ fun h => ?_
    obtain ⟨policy, hp⟩ := Policy.exists_ofConfig_eq_ok_iff.2 h.1
    rw [hpolicy] at hp
    cases hp
  | ok policy =>
    rw [run_bind_of_ok (run_require _ _ _)]
    cases hresult : verificationResult args.result args.revokedAt with
    | error e =>
      rw [run_bind_of_error (run_require _ _ _)]
      refine .refused _ fun h => ?_
      obtain ⟨result, hr⟩ := h.2.1
      rw [hresult] at hr
      cases hr
    | ok result =>
      rw [run_bind_of_ok (run_require _ _ _)]
      obtain ⟨loaded, hload, hloaded⟩ := run_loadSnapshot args.snapshot s
      cases loaded with
      | error e =>
        rw [run_bind_of_error hload]
        refine .refused _ fun h => ?_
        obtain ⟨-, -, content, snap, hread, hsnap, -⟩ := h
        exact nomatch (hloaded snap).2 ⟨content, hread, hsnap⟩
      | ok snap =>
        rw [run_bind_of_ok hload]
        obtain ⟨content, hread, hsnap⟩ := (hloaded snap).1 rfl
        have hconfig := (Policy.ofConfig_eq_ok_iff.1 hpolicy).1
        obtain ⟨s', hs', hsave⟩ := run_saveInRegistry (Registry.filed_ofSnapshot snap)
          policy.maxValidationFailures args result s
        rw [Policy.maxValidationFailures_ofConfig hpolicy] at hsave ⊢
        have hplan := Registry.isSome_plan?_ofSnapshot snap
          config.certificates.maximumValidationFailures (message args) result
        by_cases hawaits : snap.Awaits (message args)
        · rw [if_pos (hplan.2 hawaits)] at hsave
          rw [run_bind_of_ok hsave]
          rcases run_saveSnapshot args.snapshot _ s' with ⟨files, hw, hwrite⟩ | ⟨e, hw, -⟩
          · rw [run_bind_of_ok hwrite]
            rw [hs'] at hw
            exact .saved hconfig hresult hread hsnap hawaits hw
          · obtain ⟨files, hw'⟩ := FileTree.exists_write_of_read (hs' ▸ hread) _
            exact nomatch hw.symm.trans hw'
        · rw [if_neg (mt hplan.1 hawaits)] at hsave
          rw [run_bind_of_error hsave, hs']
          exact .refused _ (mt (savable_iff hconfig hresult hread hsnap).1 hawaits)

/-- The command succeeds exactly if the configuration is accepted, a time is given just for a
    revocation and is one, and the snapshot file holds the certificate and, last under its key, a
    pending attempt. Otherwise all files stay as they are. If it succeeds, the file holds the
    registry that saving the result once comes to, on whatever machine that is done. -/
theorem certificate_all_or_nothing (config : Config) (args : CertificateArguments) (s : Machine) :
    let run := (certificate host config args).run s
    (run.1 = .ok () ↔ config.validate = .ok () ∧
      ((args.revokedAt.isSome = true ↔ args.result = .revoked) ∧
        ∀ text ∈ args.revokedAt, (Instant.ofStrictText? text).isSome = true) ∧
      ∃ content snap, s.files.read args.snapshot = .ok content ∧
        Snapshot.ofBytes? content = some snap ∧
        (∃ a, snap.attempts.reverse.find?
            (fun a => a.fileKey = (args.certificate, args.attempt)) = some a ∧ a.isPending = true) ∧
          ∃ c ∈ snap.certificates, c.key = args.certificate) ∧
    (run.1 ≠ .ok () → run.2.files = s.files) ∧
    (run.1 = .ok () → ∀ content snap result, s.files.read args.snapshot = .ok content →
      Snapshot.ofBytes? content = some snap →
      verificationResult args.result args.revokedAt = .ok result →
      ∃ written after, run.2.files.read args.snapshot = .ok written ∧
        Snapshot.ofBytes? written = some after.snapshot ∧
        Registry.ofSnapshot after.snapshot = after ∧
        ∀ other : Machine, (saveResult (trustServices host)
          config.certificates.maximumValidationFailures ⟨args.certificate, args.attempt⟩ result
            (Registry.ofSnapshot snap) other).1 = (.ok true, after)) := by
  have hrun := certifying config args s
  have hsavable : Savable config args s.files ↔ _ :=
    and_congr Iff.rfl (and_congr exists_verificationResult_iff Iff.rfl)
  dsimp only
  generalize (certificate host config args).run s = x at hrun ⊢
  obtain ⟨answer, s'⟩ := x
  dsimp only at hrun ⊢
  generalize s'.files = files at hrun ⊢
  cases hrun with
  | refused e h => exact ⟨iff_of_false nofun (mt hsavable.2 h), fun _ => rfl, nofun⟩
  | @saved result content snap _ hconfig hresult hread hsnap hawaits hwrite =>
    have hthere : Savable config args s.files :=
      (savable_iff hconfig hresult hread hsnap).2 hawaits
    refine ⟨iff_of_true rfl (hsavable.1 hthere), fun h => absurd rfl h,
      fun _ content' snap' result' hread' hsnap' hresult' => ?_⟩
    cases hread.symm.trans hread'
    cases hsnap.symm.trans hsnap'
    cases hresult.symm.trans hresult'
    have hfiled := Registry.filed_ofSnapshot snap
    have hplan := (Registry.isSome_plan?_ofSnapshot snap
      config.certificates.maximumValidationFailures (message args) result).2 hawaits
    refine ⟨_, _, FileTree.read_of_write hwrite, Snapshot.ofBytes?_toBytes _, ?_,
      fun other => ?_⟩
    · exact Registry.ofSnapshot_of_lists (hfiled.settle _) (Registry.packages_settle _).2
        (Registry.lists_snapshot _)
    · rw [← hplan]
      exact (answers_saveResult hfiled other).1

/-- A snapshot that has an attempt twice, pending the second time, and a signature made with its
    certificate. -/
def askedAgain : Snapshot :=
  { packages := [⟨1, "Alpha", "1.0", "1.0.0", .validating⟩]
    validationSets := []
    certificates := [⟨1, "one", .good, 0, none⟩]
    attempts := [⟨.ofDigit 4, 1, some .good⟩, ⟨.ofDigit 4, 1, none⟩]
    signatures := [⟨10, 1, 1, .valid⟩]
    timestamps := [⟨20, 10, 1, .firstMinute⟩]
    signingStates := [⟨1, .valid⟩] }

/-- A machine with that snapshot in a file. -/
def withAskedAgain : Machine :=
  .start (FileTree.empty.plant ["registry.json"] (.file askedAgain.toBytes)) [] .epoch

/-- A revocation before the signature was made, and a result for an attempt that is not there. -/
theorem certificate_all_or_nothing_askedAgain :
    (∃ s written, ∃ after : Registry,
      (certificate host .default ⟨"registry.json", 1, .ofDigit 4, .revoked,
        some "1970-01-01T00:00:00Z"⟩).run withAskedAgain = (.ok (), s) ∧
      s.files.read "registry.json" = .ok written ∧
      Snapshot.ofBytes? written = some after.snapshot ∧
      after.signatures.values.map (·.status) = [.invalid]) ∧
    ((certificate host .default ⟨"registry.json", 1, .ofDigit 5, .good, none⟩).run
      withAskedAgain).2.files = withAskedAgain.files := by
  have hread : withAskedAgain.files.read "registry.json" = .ok askedAgain.toBytes := rfl
  have hsnap := Snapshot.ofBytes?_toBytes askedAgain
  constructor
  · obtain ⟨hok, -, hsaved⟩ := certificate_all_or_nothing .default ⟨"registry.json", 1, .ofDigit 4,
      .revoked, some "1970-01-01T00:00:00Z"⟩ withAskedAgain
    have hrun := hok.2 ⟨Config.validate_eq_ok_iff.2 Config.acceptable_default, by decide +kernel,
      _, _, hread, hsnap, ⟨⟨.ofDigit 4, 1, none⟩, by decide +kernel, rfl⟩,
      ⟨1, "one", .good, 0, none⟩, List.mem_cons_self, rfl⟩
    obtain ⟨written, after, hwritten, hafter, -, hsame⟩ := hsaved hrun _ _
      (.revoked .epoch) hread hsnap (by decide +kernel)
    refine ⟨_, written, after, Prod.ext hrun rfl, hwritten, hafter, ?_⟩
    have hcomes : _ = after := congrArg Prod.snd (hsame (.start .empty [] .epoch))
    rw [← hcomes]
    decide +kernel
  · obtain ⟨hok, hkept, -⟩ := certificate_all_or_nothing .default ⟨"registry.json", 1, .ofDigit 5,
      .good, none⟩ withAskedAgain
    refine hkept fun hrun => ?_
    obtain ⟨-, -, content, snap, hread', hsnap', ⟨a, ha, -⟩, -⟩ := hok.1 hrun
    obtain rfl := Except.ok.inj (hread.symm.trans hread')
    obtain rfl := Option.some.inj (hsnap.symm.trans hsnap')
    have hnone : askedAgain.attempts.reverse.find?
        (fun a => a.fileKey = ((1, .ofDigit 5) : AttemptKey)) = none := by decide +kernel
    exact nomatch hnone.symm.trans ha

end Command

end Admission
