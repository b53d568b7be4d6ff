import Admission.Proofs.Independence
import Admission.Proofs.Lifecycle
import Admission.Proofs.Rechecks

/-!
What a reconciliation tells of itself. Whatever fails on the way, the caller's copy of the package,
the reports and the outcome say what the registry shows afterwards: the copy has the status on file,
one duration is reported and whether the package is available, a change of status is reported if
there is one, and the time that is told for another look is the one that was asked for
(`reports_truthful`).
-/

namespace Admission

/-- The report that a call makes. -/
def Call.report? : Call → Option Telemetry
  | .report t => some t
  | _ => none

/-- The call neither reports anything nor asks for another look at a set. -/
def Call.Plain (c : Call) : Prop := c.report? = none ∧ c.schedules = false

theorem filterMap_report?_map (ts : List Telemetry) :
    (ts.map Call.report).filterMap Call.report? = ts := by
  rw [List.filterMap_map]
  exact List.filterMap_some

namespace Session

variable {s s' : Session} {policy : Policy} {set : ValidationSet} {p after : Package}

/-- Registry and copy agree on the status of a package, nothing has been reported since, and another
    look at the set has been asked for only as the answer says. -/
structure InStep (s : Session) (set : ValidationSet) (p after : Package)
    (answer : Except ReconcileError (Option Instant)) (s' : Session) : Prop where
  copy : after = { p with status := after.status }
  status : s'.registry.status? p.key = some after.status
  calls : ∃ cs, s'.calls = s.calls ++ cs ∧ cs.filterMap Call.report? = [] ∧
    ∀ u, answer = .ok u → cs.filter (·.schedules) = u.toList.map (.scheduleRecheck (.recheck set p))

theorem inStep_of_plain {answer : Except ReconcileError (Option Instant)}
    (hcopy : after = { p with status := after.status })
    (hstatus : s'.registry.status? p.key = some after.status)
    (hnone : ∀ u, answer = .ok u → u = none) (hcs : s.CallsOnly Call.Plain s') :
    InStep s set p after answer s' := by
  obtain ⟨cs, hcs, hplain⟩ := hcs
  refine ⟨hcopy, hstatus, cs, hcs, ?_, fun u hu => ?_⟩
  · exact List.filterMap_eq_nil_iff.2 fun c hc => (hplain c hc).1
  · rw [hnone u hu, filter_schedules_eq_nil fun c hc => (hplain c hc).2]
    rfl

theorem Publishing.plain {answer : Except ReconcileError Unit} (h : Publishing s p answer s') :
    s.CallsOnly Call.Plain s' := by
  cases h <;> exact ⟨_, rfl, by simp [Call.Plain, Call.report?, Call.schedules]⟩

/-- Copy and registry stay in step through every transition, at whatever step it fails. -/
theorem Applying.inStep {answer : Except ReconcileError (Option Instant)}
    (h : Applying s policy set p after answer s')
    (hp : s.registry.status? p.key = some p.status) : InStep s set p after answer s' := by
  cases h with
  | unchanged => exact inStep_of_plain rfl hp (by simp) (.of_calls_eq rfl)
  | unpublished _ hpub =>
    exact inStep_of_plain rfl (hpub.registry_eq ▸ hp) (by simp) hpub.plain
  | promoted _ hpub =>
    refine inStep_of_plain rfl (Registry.status?_updateStatus_self hpub.updateStatus_eq) (by simp)
      (hpub.plain.trans (callsOnly_noted _ ?_))
    simp [Call.Plain, Call.report?, Call.schedules]
  | unrejected =>
    refine inStep_of_plain rfl hp (by simp) (callsOnly_noted _ ?_)
    simp [Call.Plain, Call.report?, Call.schedules]
  | rejected _ _ _ hu =>
    exact inStep_of_plain rfl (Registry.status?_updateStatus_self hu) (by simp)
      ⟨_, rfl, by simp [Call.Plain, Call.report?, Call.schedules]⟩
  | beyond => exact inStep_of_plain rfl hp (by simp) (.of_calls_eq rfl)
  | @unscheduled t =>
    exact ⟨rfl, hp, [.scheduleRecheck (.recheck set p) t], rfl, rfl, by simp⟩
  | @scheduled t =>
    refine ⟨rfl, hp, [.scheduleRecheck (.recheck set p) t], rfl, rfl, fun u hu => ?_⟩
    rw [← Except.ok.inj hu]
    rfl

/-- Only the wait for another look runs past the last instant. -/
theorem Processing.inTime {answer : Except ReconcileError ReconcileOutcome}
    (h : Processing s policy set p after answer s') (hw : ¬Awaits policy set p) :
    answer ≠ .error .beyondLastInstant := by
  cases h with
  | beyond ha => exact absurd rfl (ha.timely (t := s.clock) hw).inTime
  | @reported answer _ _ _ _ hne =>
    cases answer with
    | ok u => simp [Except.map]
    | error e => simpa [Except.map] using hne

theorem process_inTime (hclock : Awaits policy set p → ∃ t,
      s.clock.add? (recheckPeriod (policy.resolve set) policy.defaultRecheckPeriod) = some t) :
    (process policy set p s).1.2 ≠ .error .beyondLastInstant := by
  by_cases hw : Awaits policy set p
  · obtain ⟨t, ht⟩ := hclock hw
    exact (process_timely ht).1
  · exact (processing policy set p s).inTime hw

/-- The reports of a reconciliation: how long the set has taken, and whether the package is
    available; and a change of status, if there is one. -/
def reportsOf (d : Duration) (old new : PackageStatus) : List Telemetry :=
  .totalDuration d (new == .available) :: if new = old then [] else [.statusChange old new]

/-- What has been reported, told and asked for since is what the registry shows. -/
structure Truthful (s : Session) (set : ValidationSet) (p after : Package)
    (answer : Except ReconcileError ReconcileOutcome) (s' : Session) : Prop where
  copy : after = { p with status := after.status }
  status : s'.registry.status? p.key = some after.status
  calls : ∃ cs, s'.calls = s.calls ++ cs ∧
    cs.filterMap Call.report? = reportsOf (s.clock.since set.created) p.status after.status ∧
      ∀ o, answer = .ok o → o.previousStatus = p.status ∧ o.status = after.status ∧
        cs.filter (·.schedules) = o.recheckAt.toList.map (.scheduleRecheck (.recheck set p))

theorem Processing.truthful {answer : Except ReconcileError ReconcileOutcome}
    (h : Processing s policy set p after answer s') (hin : answer ≠ .error .beyondLastInstant)
    (hp : s.registry.status? p.key = some p.status) : Truthful s set p after answer s' := by
  cases h with
  | beyond => exact absurd rfl hin
  | @reported answer s₁ ls ms ts _ ha hts =>
    obtain ⟨hcopy, hstatus, cs, hcs, hunreported, hscheduled⟩ := ha.inStep hp
    have hclock : s₁.clock = s.clock := ha.sameSetting.2
    have htold : (((s₁.reporting [.totalDuration (s₁.clock.since set.created)
          (after.status == .available)]).noted [] ms).reporting ts).calls =
        s.calls ++ (cs ++ (reportsOf (s.clock.since set.created) p.status after.status).map
          .report) := by
      simp [hcs, hts, hclock, reportsOf, List.append_assoc]
    refine ⟨hcopy, hstatus, _, htold, ?_, fun o ho => ?_⟩
    · rw [List.filterMap_append, hunreported, List.nil_append, filterMap_report?_map]
    · cases answer with
      | error e => cases ho
      | ok u =>
        obtain rfl := Except.ok.inj ho
        refine ⟨rfl, rfl, ?_⟩
        rw [List.filter_append, hscheduled u rfl,
          filter_schedules_eq_nil (by simp [Call.schedules]), List.append_nil]

/-- Whatever is made to fail, and whatever else is staged: where the caller has the package as it is
    on file, and there is an instant for another look if the package waits for one, the copy that
    comes back has the status that the package then has on file. How long the set has taken is
    reported once, as a success exactly if the package is available, and a change of status is
    reported once if there is one. The outcome, if there is one, tells both statuses, and the time
    for which another look has been asked for. -/
theorem reports_truthful (policy : Policy) (set : ValidationSet) (p : Package) (s : Session)
    (hp : s.registry.status? p.key = some p.status)
    (hclock : Awaits policy set p → ∃ t,
      s.clock.add? (recheckPeriod (policy.resolve set) policy.defaultRecheckPeriod) = some t) :
    let cs := s.callsOf (.process policy set p)
    let r := (process policy set p s).2.registry
    ∃ old new, s.registry.status? p.key = some old ∧ r.status? p.key = some new ∧
      (process policy set p s).1.1 = { p with status := new } ∧
      cs.filterMap Call.report? = .totalDuration (s.clock.since set.created) (new == .available) ::
        (if new = old then [] else [.statusChange old new]) ∧
      ∀ o, (process policy set p s).1.2 = .ok o → o.previousStatus = old ∧ o.status = new ∧
        cs.filter (·.schedules) =
          o.recheckAt.toList.map (.scheduleRecheck (.recheck set p)) := by
  intro cs r
  obtain ⟨hcopy, hstatus, ds, hds, hreported, htold⟩ :=
    (processing policy set p s).truthful (process_inTime hclock) hp
  have hcs : cs = ds := by
    show (process policy set p s).2.calls.drop s.calls.length = ds
    rw [hds, List.drop_left]
  rw [hcs]
  exact ⟨_, _, hp, hstatus, hcopy, hreported, htold⟩

/-- A package is to be looked at while it is staged to become available, and its owner cannot be
    told. -/
def disputed : Session :=
  { onTrial with
    registry := { onTrial.registry with staged := [(7, .available)] }
    faults := [("notify", ⟨.other, "away"⟩)] }

/-- If the set has failed, the failure is what is reported, and if it is pending, that nothing has
    changed, and the time for another look. -/
theorem reports_truthful_disputed :
    let p : Package := ⟨7, "Alpha", "1.0", "1.0.0", .validating⟩
    let cs (set : ValidationSet) := disputed.callsOf (.process (.new .zero 3) set p)
    (cs (.scanned .failed)).filterMap Call.report? =
        [.totalDuration .zero false, .statusChange .validating .failedValidation] ∧
      (cs (.scanned .incomplete)).filterMap Call.report? = [.totalDuration .zero false] ∧
        (cs (.scanned .incomplete)).filter (·.schedules) =
          [.scheduleRecheck (.recheck (.scanned .incomplete) p) .epoch] := by
  intro p cs
  have hp : disputed.registry.status? p.key = some p.status := by decide +kernel
  constructor
  · obtain ⟨old, new, hold, hnew, -, hreports, -⟩ := reports_truthful (.new .zero 3)
      (.scanned .failed) p disputed hp fun hw => absurd hw (by decide +kernel)
    have hfailed : (process (.new .zero 3) (.scanned .failed) p disputed).2.registry.status? p.key =
        some .failedValidation := by
      decide +kernel
    obtain rfl := Option.some.inj (hp.symm.trans hold)
    obtain rfl := Option.some.inj (hfailed.symm.trans hnew)
    exact hreports
  · obtain ⟨old, new, hold, hnew, -, hreports, htold⟩ := reports_truthful (.new .zero 3)
      (.scanned .incomplete) p disputed hp fun _ => ⟨.epoch, by decide +kernel⟩
    have hkept : (process (.new .zero 3) (.scanned .incomplete) p disputed).2.registry.status?
        p.key = some .validating := by
      decide +kernel
    have hanswer : (process (.new .zero 3) (.scanned .incomplete) p disputed).1.2 =
        .ok ⟨.validating, .validating, .pending, some .epoch⟩ := by
      decide +kernel
    obtain rfl := Option.some.inj (hp.symm.trans hold)
    obtain rfl := Option.some.inj (hkept.symm.trans hnew)
    exact ⟨hreports, (htold _ hanswer).2.2⟩

end Session

end Admission
