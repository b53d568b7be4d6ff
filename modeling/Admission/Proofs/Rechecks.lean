import Admission.Proofs.Config.Acceptance
import Admission.Proofs.Queue

/-!
When a set is looked at again. An accepted configuration says so in whole seconds: the least of what
it gives the validators that have not finished, or its default if all have (`Config.recheckSecs`),
which is a second at least and a week at most. The policy made of the configuration comes to the
same (`recheckPeriod_resolve`), so wherever a week can still be added to the clock, no
reconciliation runs past the last instant, and another look is scheduled that many seconds ahead
(`rechecks_in_window`).
-/

namespace Admission

/-- Whether the validation has still to start or to finish. -/
def Validation.isUnfinished (v : Validation) : Bool :=
  v.status == .notStarted || v.status == .incomplete

namespace Config

/-- The seconds after which a validator is asked again: its own, or the default. -/
def secsFor (c : Config) (validator : String) : Nat :=
  match c.validation.validators.find? (·.name == validator) with
  | some v => (v.recheckPeriodSecs.getD c.validation.recheckPeriodSecs).toNat
  | none => c.validation.recheckPeriodSecs.toNat

/-- The seconds after which a set is looked at again: the least of those of its unfinished
    validations, or the default if there are none. -/
def recheckSecs (c : Config) (set : ValidationSet) : Nat :=
  ((set.validations.filter (·.isUnfinished)).map fun v => c.secsFor v.validator).min?.getD
    c.validation.recheckPeriodSecs.toNat

variable {c : Config}

theorem Acceptable.secsFor_inRange (hc : c.Acceptable) (validator : String) :
    1 ≤ c.secsFor validator ∧ c.secsFor validator ≤ 604800 := by
  rw [secsFor]
  split
  · rename_i v hv
    have hmem := List.mem_of_find?_eq_some hv
    cases hsecs : v.recheckPeriodSecs with
    | none => exact hc.period
    | some secs => exact hc.ownPeriods v hmem secs hsecs
  · exact hc.period

theorem Acceptable.recheckSecs_inRange (hc : c.Acceptable) (set : ValidationSet) :
    1 ≤ c.recheckSecs set ∧ c.recheckSecs set ≤ 604800 := by
  rw [recheckSecs]
  cases hmin : ((set.validations.filter (·.isUnfinished)).map fun v =>
      c.secsFor v.validator).min? with
  | none => exact hc.period
  | some n =>
    obtain ⟨v, -, hv⟩ := List.mem_map.1 (List.min?_mem hmin)
    rw [Option.getD_some, ← hv]
    exact hc.secsFor_inRange v.validator

end Config

/-! ### The policy's periods -/

theorem min_ofSeconds (a b : Nat) :
    (Duration.ofSeconds a).min (.ofSeconds b) = .ofSeconds (min a b : Nat) := by
  have hle : (Duration.ofSeconds a).nanos ≤ (Duration.ofSeconds b).nanos ↔ a ≤ b := by
    simp only [Duration.ofSeconds, Duration.nanosPerSecond]
    omega
  rw [Duration.min]
  split
  · rename_i h
    rw [Nat.min_eq_left (hle.1 h)]
  · rename_i h
    rw [Nat.min_eq_right (Nat.le_of_not_le (mt hle.2 h))]

theorem foldl_min_ofSeconds (l : List Nat) (a : Nat) :
    (l.map fun n : Nat => Duration.ofSeconds n).foldl Duration.min (.ofSeconds a) =
      .ofSeconds (l.foldl min a : Nat) := by
  induction l generalizing a with
  | nil => rfl
  | cons b l ih => rw [List.map_cons, List.foldl_cons, min_ofSeconds, ih, List.foldl_cons]

namespace Policy

variable {c : Config} {policy : Policy}

theorem find?_ofConfig (h : ofConfig c = .ok policy) (name : String) :
    policy.validators.find? name =
      (c.validation.validators.find? (·.name == name)).map c.treatment := by
  have hc := Config.validate_eq_ok_iff.1 (ofConfig_eq_ok_iff.1 h).1
  apply Option.ext
  intro w
  rw [SortedMap.find?_eq_some_iff, (perm_entries_ofConfig h).mem_iff, List.mem_map,
    Option.map_eq_some_iff]
  constructor
  · rintro ⟨v, hv, heq⟩
    obtain ⟨rfl, rfl⟩ := Prod.mk.inj heq
    refine ⟨v, ?_, rfl⟩
    cases hfind : c.validation.validators.find? (·.name == v.name) with
    | none => simpa using List.find?_eq_none.1 hfind v hv
    | some w =>
      have hname : w.name = v.name := by simpa using List.find?_some hfind
      rw [List.inj_on_of_nodup_map hc.distinct (List.mem_of_find?_eq_some hfind) hv hname]
  · rintro ⟨v, hv, rfl⟩
    have hname : v.name = name := by simpa using List.find?_some hv
    exact ⟨v, List.mem_of_find?_eq_some hv, by rw [hname]⟩

theorem defaultRecheckPeriod_ofConfig (h : ofConfig c = .ok policy) :
    policy.defaultRecheckPeriod = .ofSeconds c.validation.recheckPeriodSecs.toNat := by
  obtain ⟨hvalid, rfl⟩ := ofConfig_eq_ok_iff.1 h
  have hfold (vs : List ValidatorConfig) (f : ValidatorConfig → ValidatorPolicy) (p : Policy) :
      (vs.foldl (fun p v => p.withValidator v.name (f v)) p).defaultRecheckPeriod =
        p.defaultRecheckPeriod := by
    induction vs generalizing p with
    | nil => rfl
    | cons v vs ih => exact ih (p.withValidator v.name (f v))
  rw [hfold]
  exact period_eq_of_inRange (Config.validate_eq_ok_iff.1 hvalid).period

theorem recheckPeriod_policyFor (h : ofConfig c = .ok policy) (validator : String) :
    (policy.policyFor validator).recheckPeriod = .ofSeconds (c.secsFor validator) := by
  rw [policyFor, find?_ofConfig h, Config.secsFor]
  cases c.validation.validators.find? (·.name == validator) with
  | none => exact defaultRecheckPeriod_ofConfig h
  | some v => rfl

/-- The policy of a configuration has a set looked at again when the configuration says. -/
theorem recheckPeriod_resolve (h : ofConfig c = .ok policy) (set : ValidationSet) :
    recheckPeriod (policy.resolve set) policy.defaultRecheckPeriod =
      .ofSeconds (c.recheckSecs set) := by
  have hpending : (policy.resolve set).filter (·.isPending) =
      (set.validations.filter (·.isUnfinished)).map fun v => ⟨v, policy.policyFor v.validator⟩ := by
    rw [resolve, List.filter_map]
    rfl
  have hperiods : ((policy.resolve set).filter (·.isPending)).map (·.policy.recheckPeriod) =
      ((set.validations.filter (·.isUnfinished)).map fun v => c.secsFor v.validator).map
        fun n : Nat => Duration.ofSeconds n := by
    rw [hpending, List.map_map, List.map_map]
    exact List.map_congr_left fun v _ => recheckPeriod_policyFor h v.validator
  rw [recheckPeriod, hperiods, Config.recheckSecs]
  cases (set.validations.filter (·.isUnfinished)).map fun v => c.secsFor v.validator with
  | nil => exact defaultRecheckPeriod_ofConfig h
  | cons n l =>
    rw [List.map_cons, List.min?_cons', Option.getD_some]
    exact foldl_min_ofSeconds l n

end Policy

/-! ### Instants some seconds later -/

/-- Outside a leap second, seconds that do not lead past the last instant are simply added. -/
theorem Instant.exists_add?_ofSeconds {t : Instant} (hleap : t.inLeapSecond = false) {n : Nat}
    (hlast : t.second + n ≤ lastSecond) :
    ∃ u, t.add? (.ofSeconds n) = some u ∧ u.second = t.second + n ∧ u.nano = t.nano ∧
      u.since t = .ofSeconds n := by
  have hnano : t.nano < 1000000000 := by simpa [inLeapSecond] using hleap
  have htotal : (t.second * 1000000000 + t.nano + n * 1000000000) / 1000000000 = t.second + n := by
    omega
  have hrest :
      ((t.second * 1000000000 + t.nano + n * 1000000000) % 1000000000).toNat = t.nano := by
    omega
  have hfirst := t.first_le
  have hparts : firstSecond ≤ t.second + n ∧ t.second + n ≤ lastSecond ∧ t.nano < 2000000000 ∧
      (1000000000 ≤ t.nano → (t.second + n) % 60 = 59) :=
    ⟨by omega, hlast, by omega, fun h => absurd h (by omega)⟩
  refine ⟨⟨t.second + n, t.nano, hparts.1, hparts.2.1, hparts.2.2.1, hparts.2.2.2⟩, ?_, rfl, rfl,
    ?_⟩
  · simp only [add?, hleap, Bool.false_and, Bool.false_eq_true, if_false, Duration.ofSeconds,
      Duration.nanosPerSecond, htotal, hrest]
    rw [ofParts?, dif_pos hparts]
  · have hsince : t.second + n - t.second = n := by omega
    simp [since, inLeapSecond, Nat.not_le.2 hnano, Duration.ofSeconds, hsince]

namespace Session

variable {s s' : Session} {policy : Policy} {set : ValidationSet} {p after : Package} {t : Instant}

/-! ### What is scheduled for when -/

/-- The package is left waiting for another look at its set. -/
def Awaits (policy : Policy) (set : ValidationSet) (p : Package) : Prop :=
  nextTransition p.status (classify (policy.resolve set)) = .awaitRecheck

instance : Decidable (Awaits policy set p) :=
  inferInstanceAs (Decidable (nextTransition _ _ = _))

/-- What has happened since does not run past the last instant, and if the package is left waiting,
    the time for another look is told and scheduled, and otherwise nothing is. -/
structure Timely (s : Session) (policy : Policy) (set : ValidationSet) (p : Package) (t : Instant)
    (answer : Except ReconcileError (Option Instant)) (s' : Session) : Prop where
  inTime : answer ≠ .error .beyondLastInstant
  told : ∀ u, answer = .ok u → u = if Awaits policy set p then some t else none
  scheduled : ∃ cs, s'.calls = s.calls ++ cs ∧ cs.filter (·.schedules) =
    if Awaits policy set p then [.scheduleRecheck (.recheck set p) t] else []

theorem filter_schedules_eq_nil {cs : List Call} (h : ∀ c ∈ cs, c.schedules = false) :
    cs.filter (·.schedules) = [] := by
  rw [List.filter_eq_nil_iff]
  intro c hc
  rw [h c hc]
  exact Bool.false_ne_true

theorem timely_of_not_awaits {answer : Except ReconcileError (Option Instant)}
    (hw : ¬Awaits policy set p) (hin : answer ≠ .error .beyondLastInstant)
    (hnone : ∀ u, answer = .ok u → u = none) (h : s.CallsOnly (·.schedules = false) s') :
    Timely s policy set p t answer s' := by
  obtain ⟨cs, hcs, hc⟩ := h
  refine ⟨hin, fun u hu => ?_, cs, hcs, ?_⟩
  · rw [hnone u hu, if_neg hw]
  · rw [filter_schedules_eq_nil hc, if_neg hw]

theorem Publishing.inTime {e : ReconcileError} (h : Publishing s p (.error e) s') :
    e ≠ .beyondLastInstant := by
  cases h <;> simp

/-- Only where the package is left waiting, a time is told or scheduled. -/
theorem Applying.timely {answer : Except ReconcileError (Option Instant)}
    (h : Applying s policy set p after answer s') (hw : ¬Awaits policy set p) :
    Timely s policy set p t answer s' := by
  cases h with
  | unchanged => exact timely_of_not_awaits hw (by simp) (by simp) (.of_calls_eq rfl)
  | unpublished _ hp =>
    exact timely_of_not_awaits hw (by simpa using hp.inTime) (by simp) hp.unscheduling
  | promoted _ hp =>
    refine timely_of_not_awaits hw (by simp) (by simp) (hp.unscheduling.trans ?_)
    refine callsOnly_noted _ ?_
    simp [Call.schedules]
  | unrejected =>
    exact timely_of_not_awaits hw (by simp) (by simp) (callsOnly_noted _ (by simp [Call.schedules]))
  | rejected =>
    exact timely_of_not_awaits hw (by simp) (by simp) ⟨_, rfl, by simp [Call.schedules]⟩
  | beyond ht => exact absurd ht hw
  | unscheduled ht => exact absurd ht hw
  | scheduled ht => exact absurd ht hw

theorem timely_awaitRecheck (hw : Awaits policy set p)
    (ht : s.clock.add? (recheckPeriod (policy.resolve set) policy.defaultRecheckPeriod) = some t) :
    Timely s policy set p t
      (awaitRecheck reconcileServices policy set (policy.resolve set) p s).1.2
      (awaitRecheck reconcileServices policy set (policy.resolve set) p s).2 := by
  simp only [awaitRecheck, run_bind, run_now, ht, run_scheduleRecheck]
  cases s.fault? (.scheduleRecheck (.recheck set p) t) with
  | some f =>
    simp only [run_pure]
    exact ⟨by simp, by simp, [.scheduleRecheck (.recheck set p) t], rfl, by rw [if_pos hw]; rfl⟩
  | none =>
    simp only [run_bind, run_reconcileLog, run_pure, noted_noted]
    refine ⟨by simp, fun u hu => ?_, [.scheduleRecheck (.recheck set p) t], rfl, ?_⟩
    · rw [if_pos hw, Except.ok.inj hu]
    · rw [if_pos hw]
      rfl

theorem timely_applyTransition
    (ht : s.clock.add? (recheckPeriod (policy.resolve set) policy.defaultRecheckPeriod) = some t) :
    Timely s policy set p t
      (applyTransition reconcileServices policy set (policy.resolve set) p s).1.2
      (applyTransition reconcileServices policy set (policy.resolve set) p s).2 := by
  by_cases hw : Awaits policy set p
  · have hwait := timely_awaitRecheck hw ht
    rw [applyTransition]
    rw [Awaits] at hw
    rw [hw]
    exact hwait
  · exact (applying policy set p s).timely hw

/-- A reconciliation schedules what its transition does. -/
theorem process_timely
    (ht : s.clock.add? (recheckPeriod (policy.resolve set) policy.defaultRecheckPeriod) = some t) :
    (process policy set p s).1.2 ≠ .error .beyondLastInstant ∧
      (∀ o, (process policy set p s).1.2 = .ok o →
        o.recheckAt = if Awaits policy set p then some t else none) ∧
        ∃ cs, (process policy set p s).2.calls = s.calls ++ cs ∧ cs.filter (·.schedules) =
          if Awaits policy set p then [.scheduleRecheck (.recheck set p) t] else [] := by
  simp only [process, processOutcome, settleOutcome, run_bind, run_logAll, run_reconcileLog,
    noted_noted, List.append_nil]
  generalize policy.missingPolicyLogs set ++ _ = ls
  have htimely := timely_applyTransition (s := s.noted [] ls) (p := p) ht
  generalize applyTransition reconcileServices policy set (policy.resolve set) p
    (s.noted [] ls) = x at htimely ⊢
  obtain ⟨⟨after, answer⟩, s'⟩ := x
  obtain ⟨hin, htold, cs, hcs, hscheduled⟩ := htimely
  dsimp only at hin htold hcs ⊢
  obtain ⟨ms, hms⟩ := run_reportStatus set p.status after
    (s'.reporting [.totalDuration (s'.clock.since set.created) (after.status == .available)])
  have hreported (ts : List Telemetry) :
      ∃ cs, (((s'.reporting [.totalDuration (s'.clock.since set.created)
          (after.status == .available)]).noted [] ms).reporting ts).calls = s.calls ++ cs ∧
        cs.filter (·.schedules) =
          if Awaits policy set p then [.scheduleRecheck (.recheck set p) t] else [] := by
    refine ⟨cs ++ (.report (.totalDuration (s'.clock.since set.created)
      (after.status == .available)) :: ts.map .report), ?_, ?_⟩
    · simp [hcs, List.append_assoc]
    · rw [List.filter_append, hscheduled, filter_schedules_eq_nil (by simp [Call.schedules]),
        List.append_nil]
  cases answer with
  | ok u =>
    simp only [run_bind, run_now, run_reconcileReport, run_pure, hms]
    refine ⟨by simp [Except.map], fun o ho => ?_, hreported _⟩
    obtain rfl := Except.ok.inj ho
    exact htold u rfl
  | error e =>
    cases e with
    | beyondLastInstant => exact absurd rfl hin
    | _ =>
      simp only [run_bind, run_now, run_reconcileReport, run_pure, hms]
      exact ⟨by simp [Except.map], by simp [Except.map], hreported _⟩

/-- Under an accepted configuration, with the clock outside a leap second and a week before the last
    instant at least, no reconciliation runs past the last instant. If the package is left waiting
    for another look, this is scheduled, and told, for as many seconds ahead as the configuration
    says for the unfinished validations of the set, from a second to a week; and otherwise nothing
    is scheduled. -/
theorem rechecks_in_window {c : Config} (hc : Policy.ofConfig c = .ok policy) (s : Session)
    (hleap : s.clock.inLeapSecond = false) (hlast : s.clock.second + 604800 ≤ lastSecond)
    (set : ValidationSet) (p : Package) :
    (1 ≤ c.recheckSecs set ∧ c.recheckSecs set ≤ 604800) ∧
      ∃ t : Instant,
        (t.since s.clock = .ofSeconds (c.recheckSecs set) ∧
          t.second = s.clock.second + c.recheckSecs set ∧ t.nano = s.clock.nano) ∧
        (process policy set p s).1.2 ≠ .error .beyondLastInstant ∧
        (∀ o, (process policy set p s).1.2 = .ok o →
          o.recheckAt = if Awaits policy set p then some t else none) ∧
        (s.callsOf (.process policy set p)).filter (·.schedules) =
          if Awaits policy set p then [.scheduleRecheck (.recheck set p) t] else [] := by
  have hacceptable := Config.validate_eq_ok_iff.1 (Policy.ofConfig_eq_ok_iff.1 hc).1
  have hrange := hacceptable.recheckSecs_inRange set
  obtain ⟨t, ht, hsecond, hnano, hsince⟩ := Instant.exists_add?_ofSeconds hleap
    (n := c.recheckSecs set) (by omega)
  rw [← Policy.recheckPeriod_resolve hc] at ht
  obtain ⟨hin, htold, cs, hcs, hscheduled⟩ := process_timely (p := p) ht
  refine ⟨hrange, t, ⟨hsince, hsecond, hnano⟩, hin, htold, ?_⟩
  rw [callsOf, step, hcs, List.drop_left]
  exact hscheduled

/-- A validation set that waits for a validator of the configuration and for one that is not in
    it. -/
def waitingSet : ValidationSet :=
  ⟨.ofDigit 1, "Waiting", "1.0.0", .epoch,
    [⟨.ofDigit 2, "scan", .incomplete, []⟩, ⟨.ofDigit 3, "lint", .succeeded, []⟩,
      ⟨.ofDigit 4, "manual", .notStarted, []⟩]⟩

/-- The last nanosecond after which there still is a week. -/
def lastWeek : Instant :=
  (Instant.ofParts? 8210266271999 999999999).getD .epoch

theorem rechecks_in_window_lastWeek :
    ∃ policy, Policy.ofConfig (Config.diamond []) = .ok policy ∧
      let s : Session := .start .empty .empty lastWeek
      let p : Package := ⟨1, "Waiting", "1.0", "1.0.0", .validating⟩
      s.clock.inLeapSecond = false ∧ s.clock.second + 604800 = lastSecond ∧
        (Config.diamond []).recheckSecs waitingSet = 60 ∧ Awaits policy waitingSet p ∧
          ∃ t : Instant, t.since s.clock = .ofSeconds 60 ∧
            (s.callsOf (.process policy waitingSet p)).filter (·.schedules) =
              [.scheduleRecheck (.recheck waitingSet p) t] := by
  obtain ⟨policy, hp⟩ := Policy.exists_ofConfig_eq_ok_iff.2
    (Config.validate_eq_ok_iff.2 Config.acceptable_diamond)
  have hsecs : (Config.diamond []).recheckSecs waitingSet = 60 := by decide
  have hw : Awaits policy waitingSet ⟨1, "Waiting", "1.0", "1.0.0", .validating⟩ := rfl
  have hlast : lastWeek.second + 604800 = lastSecond := by decide +kernel
  have hleap : lastWeek.inLeapSecond = false := by decide +kernel
  obtain ⟨-, t, ⟨hsince, -, -⟩, -, -, hscheduled⟩ := rechecks_in_window hp
    (.start .empty .empty lastWeek) hleap (Int.le_of_eq hlast) waitingSet
    ⟨1, "Waiting", "1.0", "1.0.0", .validating⟩
  rw [hsecs] at hsince
  rw [if_pos hw] at hscheduled
  exact ⟨policy, hp, hleap, hlast, hsecs, hw, t, hsince, hscheduled⟩

end Session

end Admission
