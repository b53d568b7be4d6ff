import Admission.Proofs.Session.Rounds

/-!
The life of a package over runs. It fails validation at most once and becomes available at most
once, in that order and never the other way, whatever is made to fail in between. Each change of its
status is told to the owner once and reported once, and both follow the registry: notices and
reports of a round are those of the change that the round makes (`Steady.follows`), and no notice of
a publication goes out before the registry shows it (`handleMessage_servicesWithholding`).
-/

namespace Admission

/-- Whether a package may come from the first status to the second. -/
def PackageStatus.rises : PackageStatus → PackageStatus → Bool
  | .validating, .failedValidation | .validating, .available | .failedValidation, .available => true
  | _, _ => false

theorem PackageStatus.rises_irrefl (a : PackageStatus) : a.rises a = false := by
  cases a <;> rfl

theorem PackageStatus.rises_trans {a b c : PackageStatus} (hab : a.rises b = true)
    (hbc : b.rises c = true) : a.rises c = true := by
  cases a <;> cases b <;> cases c <;> simp_all [rises]

theorem rises_of_promote {a : PackageStatus} {c : Classification}
    (h : nextTransition a c = .promote) : a.rises .available = true := by
  cases a <;> cases c <;> simp_all [nextTransition, PackageStatus.rises]

theorem rises_of_reject {a : PackageStatus} {c : Classification}
    (h : nextTransition a c = .reject) : a.rises .failedValidation = true := by
  cases a <;> cases c <;> simp_all [nextTransition, PackageStatus.rises]

/-- The status that a notice tells of. -/
def Notice.status : Notice → PackageStatus
  | .published => .available
  | .validationFailed | .signedValidationFailed => .failedValidation

namespace Call

/-- The notice that a call gives of the package under a key. -/
def notice? (k : PackageKey) : Call → Option Notice
  | .notify notice p => if p.key = k then some notice else none
  | _ => none

/-- The change of status that a call reports. -/
def statusChange? : Call → Option (PackageStatus × PackageStatus)
  | .report (.statusChange old new) => some (old, new)
  | _ => none

/-- Whether a call gives a notice or reports a change of status. -/
def announces : Call → Bool
  | .notify .. | .report (.statusChange ..) => true
  | _ => false

/-- Whether a call is to set a status. -/
def setsStatus : Call → Bool
  | .updateStatus .. => true
  | _ => false

/-- The call neither announces anything nor sets a status. -/
def Silent (c : Call) : Prop := c.announces = false ∧ c.setsStatus = false

/-- Calls that announce nothing, of which at most one is to set a status. -/
structure Quiet (cs : List Call) : Prop where
  silent : ∀ c ∈ cs, c.announces = false
  single : cs.countP setsStatus ≤ 1

/-- The calls that make a new status known: the notice to the owner and the two reports. -/
def announcement (p : Package) (notice : Notice) (d : Duration) (succeeded : Bool) : List Call :=
  [.notify notice { p with status := notice.status }, .report (.totalDuration d succeeded),
    .report (.statusChange p.status notice.status)]

variable {cs ds : List Call}

theorem countP_setsStatus_of_silent (h : ∀ c ∈ cs, c.Silent) : cs.countP setsStatus = 0 := by
  rw [List.countP_eq_zero]
  intro c hc
  simp [(h c hc).2]

theorem quiet_of_silent (h : ∀ c ∈ cs, c.Silent) : Quiet cs :=
  ⟨fun c hc => (h c hc).1, by simp [countP_setsStatus_of_silent h]⟩

theorem quiet_nil : Quiet [] := quiet_of_silent (by simp)

theorem quiet_updateStatus (p : Package) (status : PackageStatus) (commit : Bool) :
    Quiet [updateStatus p status commit] :=
  ⟨by simp [announces], by simp [setsStatus, List.countP_cons]⟩

theorem Quiet.append (h : Quiet cs) (hd : ∀ c ∈ ds, c.Silent) : Quiet (cs ++ ds) := by
  refine ⟨List.forall_mem_append.2 ⟨h.silent, fun c hc => (hd c hc).1⟩, ?_⟩
  rw [List.countP_append, countP_setsStatus_of_silent hd]
  exact h.single

theorem Quiet.prepend (h : Quiet cs) (hd : ∀ c ∈ ds, c.Silent) : Quiet (ds ++ cs) := by
  refine ⟨List.forall_mem_append.2 ⟨fun c hc => (hd c hc).1, h.silent⟩, ?_⟩
  rw [List.countP_append, countP_setsStatus_of_silent hd, Nat.zero_add]
  exact h.single

theorem silent_scheduleRecheck (m : ValidationMessage) (t : Instant) :
    ∀ c ∈ [scheduleRecheck m t], c.Silent := by
  simp [Silent, announces, setsStatus]

theorem silent_of_findsOutcome {c : Call} (h : c.findsOutcome = true) : c.Silent := by
  cases c <;> simp_all [findsOutcome, Silent, announces, setsStatus]

theorem quiet_of_findsOutcome (h : ∀ c ∈ cs, c.findsOutcome = true) : Quiet cs :=
  quiet_of_silent fun c hc => silent_of_findsOutcome (h c hc)

theorem silent_of_readsTrust {c : Call} (h : c.readsTrust = true) : c.Silent := by
  cases c <;> simp_all [readsTrust, Silent, announces, setsStatus]

theorem filterMap_notice?_eq_nil (h : ∀ c ∈ cs, c.announces = false) (k : PackageKey) :
    cs.filterMap (notice? k) = [] := by
  rw [List.filterMap_eq_nil_iff]
  intro c hc
  have := h c hc
  cases c <;> simp_all [notice?, announces]

theorem filterMap_statusChange?_eq_nil (h : ∀ c ∈ cs, c.announces = false) :
    cs.filterMap statusChange? = [] := by
  rw [List.filterMap_eq_nil_iff]
  intro c hc
  have := h c hc
  cases c with
  | report t => cases t <;> simp_all [statusChange?, announces]
  | _ => rfl

section Announcement

variable (p : Package) (notice : Notice) (d : Duration) (succeeded : Bool)

theorem filterMap_notice?_announcement (k : PackageKey) :
    (announcement p notice d succeeded).filterMap (notice? k) =
      if p.key = k then [notice] else [] := by
  by_cases hk : p.key = k <;> simp [announcement, notice?, hk]

theorem filterMap_statusChange?_announcement :
    (announcement p notice d succeeded).filterMap statusChange? =
      [(p.status, notice.status)] := rfl

theorem countP_setsStatus_announcement :
    (announcement p notice d succeeded).countP setsStatus = 0 := rfl

end Announcement

end Call

open Call (Quiet)

/-- What is reported of a plan is no change of a package's status. -/
theorem TrustPlan.silent_of_mem_reports (plan : TrustPlan) :
    ∀ c ∈ plan.reports.map Call.report, c.Silent := by
  intro c hc
  obtain ⟨t, ht, rfl⟩ := List.mem_map.1 hc
  rcases List.mem_append.1 ht with ht | ht
  · split at ht
    · rw [List.mem_singleton.1 ht]
      exact ⟨rfl, rfl⟩
    · cases ht
  · obtain ⟨sig, -, rfl⟩ := List.mem_map.1 ht
    exact ⟨rfl, rfl⟩

namespace Session

variable {s s' : Session} {policy : Policy} {set : ValidationSet} {p after : Package}

/-! ### What a reconciliation announces -/

theorem Publishing.quiet {answer : Except ReconcileError Unit} (h : Publishing s p answer s') :
    ∃ cs, s'.calls = s.calls ++ cs ∧ Quiet cs := by
  cases h <;> exact ⟨_, rfl, by simp [Call.announces], by simp [Call.setsStatus, List.countP_cons]⟩

theorem Publishing.registry_eq {e : ReconcileError} (h : Publishing s p (.error e) s') :
    s'.registry = s.registry := by
  cases h <;> rfl

theorem Publishing.updateStatus_eq (h : Publishing s p (.ok ()) s') :
    s.registry.updateStatus p .available true = .ok s'.registry := by
  cases h with
  | published _ _ hu => exact hu

/-- What is done for a transition either leaves the registry alone and tells nobody, or it sets a
    status and tells the owner. -/
inductive Telling (s : Session) (p : Package) : Package → Session → Prop
  | silent {cs : List Call} {s' : Session} (hr : s'.registry = s.registry)
      (hcs : s'.calls = s.calls ++ cs) (hq : Quiet cs) : Telling s p p s'
  | told {cs : List Call} {notice : Notice} {s' : Session}
      (hl : p.status.rises notice.status = true)
      (hr : s.registry.updateStatus p notice.status true = .ok s'.registry)
      (hcs : s'.calls = s.calls ++ (cs ++ [.notify notice { p with status := notice.status }]))
      (hq : Quiet cs) : Telling s p { p with status := notice.status } s'

theorem Applying.telling {answer : Except ReconcileError (Option Instant)}
    (h : Applying s policy set p after answer s') : Telling s p after s' := by
  cases h with
  | unchanged => exact .silent rfl (List.append_nil _).symm Call.quiet_nil
  | unpublished _ hp =>
    obtain ⟨cs, hcs, hq⟩ := hp.quiet
    exact .silent hp.registry_eq hcs hq
  | promoted ht hp =>
    obtain ⟨cs, hcs, hq⟩ := hp.quiet
    refine @Telling.told s p cs .published _ (rises_of_promote ht) hp.updateStatus_eq ?_ hq
    rw [calls_noted, hcs, List.append_assoc]
    rfl
  | unrejected => exact .silent rfl rfl (Call.quiet_updateStatus p .failedValidation true)
  | @rejected _ notice _ ht hn _ hu =>
    have hs : notice.status = .failedValidation := by
      rw [hn]
      split <;> rfl
    rw [← hs] at hu ⊢
    exact .told (hs ▸ rises_of_reject ht) hu rfl (Call.quiet_updateStatus p notice.status true)
  | beyond => exact .silent rfl (List.append_nil _).symm Call.quiet_nil
  | unscheduled => exact .silent rfl rfl (Call.quiet_of_silent (Call.silent_scheduleRecheck _ _))
  | scheduled => exact .silent rfl rfl (Call.quiet_of_silent (Call.silent_scheduleRecheck _ _))

/-- What a reconciliation announces: nothing, where the registry stays as it is, or else the status
    that it sets, once to the owner and once as a report. -/
inductive Announcing (s : Session) (p : Package) (s' : Session) : Prop
  | silent {cs : List Call} (hr : s'.registry = s.registry) (hcs : s'.calls = s.calls ++ cs)
      (hq : Quiet cs)
  | told {cs : List Call} {notice : Notice} {d : Duration} {succeeded : Bool}
      (hl : p.status.rises notice.status = true)
      (hr : s.registry.updateStatus p notice.status true = .ok s'.registry)
      (hcs : s'.calls = s.calls ++ (cs ++ Call.announcement p notice d succeeded))
      (hq : Quiet cs)

theorem Processing.announcing {answer : Except ReconcileError ReconcileOutcome}
    (h : Processing s policy set p after answer s') : s.Announcing p s' := by
  cases h with
  | beyond ha =>
    -- Nothing but the re-check ends so, and that one tells nobody.
    cases ha with
    | unpublished _ hp => cases hp
    | beyond => exact .silent rfl rfl Call.quiet_nil
  | @reported _ s₁ _ _ _ _ ha hts =>
    cases ha.telling with
    | silent hr hcs hq =>
      rw [if_pos rfl] at hts
      subst hts
      have hreport : ∀ c ∈ [Call.report (.totalDuration (s₁.clock.since set.created)
          (p.status == .available))], c.Silent := by
        simp [Call.Silent, Call.announces, Call.setsStatus]
      refine .silent hr ?_ (hq.append hreport)
      rw [reporting_nil, calls_noted, calls_reporting, hcs, calls_noted, List.append_nil,
        List.append_nil, List.append_assoc]
      rfl
    | @told cs notice _ hl hr hcs hq =>
      have hne : notice.status ≠ p.status := by
        intro heq
        rw [heq, PackageStatus.rises_irrefl] at hl
        cases hl
      rw [if_neg hne] at hts
      refine @Announcing.told s p _ cs notice (s₁.clock.since set.created)
        (notice.status == .available) hl hr ?_ hq
      rw [hts, calls_reporting, calls_noted, calls_reporting, hcs, calls_noted]
      simp [Call.announcement]

/-- What is asked before does not matter. -/
theorem Announcing.widen {cs : List Call} (h : (s.noted cs []).Announcing p s')
    (hc : ∀ c ∈ cs, c.findsOutcome = true) : s.Announcing p s' := by
  cases h with
  | silent hr hcs hq =>
    rw [calls_noted, List.append_assoc] at hcs
    exact .silent hr hcs (hq.prepend fun c h => Call.silent_of_findsOutcome (hc c h))
  | told hl hr hcs hq =>
    rw [calls_noted, List.append_assoc, ← List.append_assoc cs] at hcs
    exact .told hl hr hcs (hq.prepend fun c h => Call.silent_of_findsOutcome (hc c h))

/-! ### What a round announces -/

/-- The key of the package that a round reconciles, where it handles a message that is about one. -/
def subject? (s : Session) : Round → Option PackageKey
  | .work (.handle _ m) => (s.registry.subject? m).map (·.key)
  | _ => none

/-- What a round announces: nothing, where every package keeps its status, or else the status that
    it sets for the package it reconciles. -/
inductive Heard (s : Session) (t : Round) (s' : Session) : Prop
  | silent {cs : List Call} (hp : s'.registry.packages = s.registry.packages)
      (hcs : s'.calls = s.calls ++ cs) (hq : Quiet cs)
  | told {p : Package} {cs : List Call} {notice : Notice} {d : Duration} {succeeded : Bool}
      (hsub : s.subject? t = some p.key) (hp : s.registry.packages.find? p.key = some p)
      (hl : p.status.rises notice.status = true)
      (hr : s.registry.updateStatus p notice.status true = .ok s'.registry)
      (hcs : s'.calls = s.calls ++ (cs ++ Call.announcement p notice d succeeded))
      (hq : Quiet cs)

theorem Handling.heard {m : ValidationMessage} {answer : Except ReconcileError ReconcileOutcome}
    (h : Handling s policy m answer s') (hs : s.Steady) :
    s.Heard (.work (.handle policy m)) s' := by
  cases h with
  | unread _ _ hcs => exact .silent rfl rfl (Call.quiet_of_findsOutcome hcs)
  | unknownSet => exact .silent rfl rfl (Call.quiet_of_findsOutcome (by simp [Call.findsOutcome]))
  | unknownPackage =>
    exact .silent rfl rfl (Call.quiet_of_findsOutcome (by simp [Call.findsOutcome]))
  | @processed set p _ _ _ hset hp hproc =>
    have hfile := hs.filed.packages.mem_values_iff.1 (Registry.mem_of_package? hp)
    have hsub : s.subject? (.work (.handle policy m)) = some p.key := by
      rw [subject?, Registry.subject?_eq_some hset hp, Option.map_some]
    cases hproc.announcing.widen (by simp [Call.findsOutcome]) with
    | silent hr hcs hq => exact .silent (congrArg Registry.packages hr) hcs hq
    | told hl hr hcs hq => exact .told hsub hfile hl hr hcs hq

/-- Saving a result tells no owner and reports no change of status. -/
theorem Saving.heard {maximum : UInt32} {m : CertificateMessage} {result : VerificationResult}
    {answer : Except TrustError Bool} (h : Saving s maximum m result answer s') :
    s.Heard (.work (.save maximum m result)) s' := by
  have hreads {cs : List Call} (hcs : ∀ c ∈ cs, c.readsTrust = true) : Quiet cs :=
    Call.quiet_of_silent fun c hc => Call.silent_of_readsTrust (hcs c hc)
  have hcommit (changes : TrustChanges) : ∀ c ∈ [Call.commit changes], c.Silent := by
    simp [Call.Silent, Call.announces, Call.setsStatus]
  cases h with
  | unread _ _ hcs => exact .silent rfl rfl (hreads hcs)
  | unresolved hcs => exact .silent rfl rfl (hreads hcs)
  | refused hcs => exact .silent rfl rfl ((hreads hcs).append (hcommit _))
  | @saved _ _ plan _ hcs _ _ hr =>
    obtain rfl := Registry.put_of_commit hr
    have hquiet := (hreads hcs).append (hcommit plan.changes)
    exact .silent rfl (List.append_assoc _ _ _) (hquiet.append plan.silent_of_mem_reports)

theorem Steady.heard (h : s.Steady) {t : Round} (ht : t.Queued) : s.Heard t (s.round t) := by
  cases t with
  | work w =>
    cases w with
    | handle policy m => exact (handling policy m s).heard h
    | process => exact ht.elim
    | save maximum m result => exact (saving maximum m result s).heard
    | setClock => exact .silent rfl (List.append_nil _).symm Call.quiet_nil
    | setFaults => exact .silent rfl (List.append_nil _).symm Call.quiet_nil
    | submit => exact .silent rfl (List.append_nil _).symm Call.quiet_nil
  | replaceSets => exact .silent rfl (List.append_nil _).symm Call.quiet_nil

/-! ### What a round changes -/

/-- The statuses of a package before and after a round, where they differ. -/
def changesIn (k : PackageKey) (s : Session) (t : Round) :
    List (Option PackageStatus × Option PackageStatus) :=
  if s.registry.status? k = (s.round t).registry.status? k then []
  else [(s.registry.status? k, (s.round t).registry.status? k)]

/-- The notices of a package given in a round. -/
def noticesIn (k : PackageKey) (s : Session) (t : Round) : List Notice :=
  (s.callsIn t).filterMap (Call.notice? k)

/-- The changes of status reported in a round, where it reconciles the package. -/
def reportsIn (k : PackageKey) (s : Session) (t : Round) : List (PackageStatus × PackageStatus) :=
  if s.subject? t = some k then (s.callsIn t).filterMap Call.statusChange? else []

/-- Of one package, a round gives notice of and reports exactly the change that it makes, and it
    makes no more than one. -/
structure Follows (k : PackageKey) (s : Session) (t : Round) : Prop where
  rises : ∀ c ∈ changesIn k s t, ∃ a b, c = (some a, some b) ∧ a.rises b = true
  notices : (noticesIn k s t).map (fun n => some n.status) = (changesIn k s t).map (·.2)
  reports : (reportsIn k s t).map (fun c => (some c.1, some c.2)) = (changesIn k s t).map id
  single : (s.callsIn t).countP Call.setsStatus ≤ 1

theorem changesIn_eq_nil {k : PackageKey} {t : Round}
    (h : (s.round t).registry.status? k = s.registry.status? k) : changesIn k s t = [] := by
  rw [changesIn, if_pos h.symm]

theorem Steady.follows (h : s.Steady) {t : Round} (ht : t.Queued) (k : PackageKey) :
    Follows k s t := by
  cases h.heard ht with
  | silent hp hcs hq =>
    have hch : changesIn k s t = [] := changesIn_eq_nil (Registry.status?_congr hp k)
    have hcalls := callsIn_eq hcs
    refine ⟨by simp [hch], ?_, ?_, hcalls ▸ hq.single⟩
    · rw [noticesIn, hcalls, Call.filterMap_notice?_eq_nil hq.silent, hch]
      rfl
    · rw [reportsIn, hcalls, Call.filterMap_statusChange?_eq_nil hq.silent, ite_self, hch]
      rfl
  | @told p cs notice d succeeded hsub hp hl hr hcs hq =>
    have hcalls := callsIn_eq hcs
    have hnotices : noticesIn k s t = if p.key = k then [notice] else [] := by
      rw [noticesIn, hcalls, List.filterMap_append, Call.filterMap_notice?_eq_nil hq.silent,
        Call.filterMap_notice?_announcement, List.nil_append]
    have hreports : reportsIn k s t = if p.key = k then [(p.status, notice.status)] else [] := by
      rw [reportsIn, hsub, hcalls, List.filterMap_append,
        Call.filterMap_statusChange?_eq_nil hq.silent, Call.filterMap_statusChange?_announcement,
        List.nil_append]
      simp only [Option.some.injEq]
    have hsingle : (s.callsIn t).countP Call.setsStatus ≤ 1 := by
      rw [hcalls, List.countP_append, Call.countP_setsStatus_announcement]
      exact hq.single
    have hchanges : changesIn k s t =
        if p.key = k then [(some p.status, some notice.status)] else [] := by
      split
      · rename_i hk
        subst hk
        have hne : p.status ≠ notice.status := by
          intro heq
          rw [heq, PackageStatus.rises_irrefl] at hl
          cases hl
        rw [changesIn, Registry.status?_of_find? hp, Registry.status?_updateStatus_self hr,
          if_neg (by simpa using hne)]
      · rename_i hk
        exact changesIn_eq_nil (Registry.status?_updateStatus_of_ne h.staged hr (Ne.symm hk))
    refine ⟨?_, ?_, ?_, hsingle⟩
    · rw [hchanges]
      split
      · simpa using hl
      · simp
    · rw [hnotices, hchanges]
      split <;> rfl
    · rw [hreports, hchanges]
      split <;> rfl

/-! ### Runs -/

/-- A package comes to a status at most once, and only from below. -/
theorem Steady.countP_changes_le (h : s.Steady) {ts : List Round} (hts : ∀ t ∈ ts, t.Queued)
    (k : PackageKey) (status : PackageStatus) :
    (collect (changesIn k) s ts).countP (·.2 = some status) ≤
      if (s.registry.status? k).any (·.rises status) then 1 else 0 := by
  induction ts generalizing s with
  | nil => simp [collect]
  | cons t ts ih =>
    have hrest := ih (h.round t) fun u hu => hts u (List.mem_cons_of_mem t hu)
    have hrises := (h.follows (hts t List.mem_cons_self) k).rises
    rw [collect, List.countP_append]
    rw [changesIn] at hrises ⊢
    split at hrises
    · rename_i hsame
      rw [if_pos hsame, hsame]
      simpa using hrest
    · rename_i hne
      obtain ⟨a, b, hab, hlt⟩ := hrises _ List.mem_cons_self
      obtain ⟨ha, hb⟩ := Prod.mk.inj hab
      rw [if_neg hne, ha, hb]
      rw [hb, Option.any_some] at hrest
      rw [Option.any_some, List.countP_singleton]
      by_cases hst : b = status
      · -- From here on the package stays at or above the status it has come to.
        subst hst
        rw [PackageStatus.rises_irrefl, if_neg Bool.false_ne_true, Nat.le_zero] at hrest
        simp [hlt, hrest]
      · have hle : (if b.rises status = true then 1 else 0) ≤
            if a.rises status = true then 1 else 0 := by
          split
          · rename_i hbs
            exact Nat.le_of_eq (if_pos (PackageStatus.rises_trans hlt hbs)).symm
          · exact Nat.zero_le _
        simpa [hst] using Nat.le_trans hrest hle

theorem Steady.countP_notices_le (h : s.Steady) {ts : List Round} (hts : ∀ t ∈ ts, t.Queued)
    (k : PackageKey) (status : PackageStatus) :
    (collect (noticesIn k) s ts).countP (·.status = status) ≤ 1 := by
  have hmap := h.collect_map (fun hs ht => (hs.follows ht k).notices) hts
  calc (collect (noticesIn k) s ts).countP (·.status = status)
      = ((collect (noticesIn k) s ts).map fun n => some n.status).countP (· = some status) := by
        rw [List.countP_map]
        exact List.countP_congr fun n _ => by simp
    _ = (collect (changesIn k) s ts).countP (·.2 = some status) := by
        rw [hmap, List.countP_map]
        rfl
    _ ≤ if (s.registry.status? k).any (·.rises status) then 1 else 0 :=
        h.countP_changes_le hts k status
    _ ≤ 1 := by split <;> decide

/-! ### No notice before its time -/

/-- The services of a session, with something else done in place of telling an owner of a
    publication that the registry does not show. -/
def servicesWithholding (other : StateM Session (Except NotifierError Unit)) :
    ReconcileServices (StateM Session) :=
  { reconcileServices with
    notify := fun notice p s =>
      if notice = .published ∧ s.registry.status? p.key ≠ some .available then other s
      else reconcileServices.notify notice p s }

section Withholding

variable (other : StateM Session (Except NotifierError Unit))

theorem tellOwner_servicesWithholding {notice : Notice}
    (h : notice = .published → s.registry.status? p.key = some .available) :
    tellOwner (servicesWithholding other) notice p s = tellOwner reconcileServices notice p s := by
  have hnotify : (servicesWithholding other).notify notice p s =
      reconcileServices.notify notice p s :=
    if_neg fun hp => hp.2 (h hp.1)
  rw [tellOwner, tellOwner, run_bind, run_bind, hnotify]
  rfl

theorem logAll_servicesWithholding (l : List LogEntry) :
    logAll (servicesWithholding other) l = logAll reconcileServices l := by
  induction l with
  | nil => rfl
  | cons e l ih => rw [logAll, logAll, ih]; rfl

theorem promote_servicesWithholding (p : Package) (s : Session) :
    promote (servicesWithholding other) p s = promote reconcileServices p s := by
  have hpub := publishing p s
  rw [promote, promote, run_bind, run_bind]
  rw [show publish (servicesWithholding other) p = publish reconcileServices p from rfl]
  generalize publish reconcileServices p s = x at hpub ⊢
  obtain ⟨answer, s'⟩ := x
  dsimp only at hpub ⊢
  cases answer with
  | error e => rfl
  | ok =>
    have hshown := Registry.status?_updateStatus_self hpub.updateStatus_eq
    dsimp only
    rw [run_bind, run_bind]
    rw [tellOwner_servicesWithholding other (p := { p with status := .available }) fun _ => hshown]

theorem reject_servicesWithholding (resolved : List ResolvedValidation) (p : Package)
    (s : Session) :
    reject (servicesWithholding other) resolved p s = reject reconcileServices resolved p s := by
  rw [reject, reject, run_bind, run_bind]
  rw [show (servicesWithholding other).updateStatus = reconcileServices.updateStatus from rfl]
  generalize reconcileServices.updateStatus p .failedValidation true s = x
  obtain ⟨answer, s'⟩ := x
  cases answer with
  | error e => rfl
  | ok =>
    dsimp only
    rw [run_bind, run_bind, tellOwner_servicesWithholding other]
    intro hnotice
    split at hnotice <;> cases hnotice

theorem applyTransition_servicesWithholding (policy : Policy) (set : ValidationSet)
    (resolved : List ResolvedValidation) (p : Package) (s : Session) :
    applyTransition (servicesWithholding other) policy set resolved p s =
      applyTransition reconcileServices policy set resolved p s := by
  rw [applyTransition, applyTransition]
  cases nextTransition p.status (classify resolved) with
  | promote => exact promote_servicesWithholding other p s
  | reject => exact reject_servicesWithholding other resolved p s
  | awaitRecheck => rfl
  | unchanged => rfl

theorem processOutcome_servicesWithholding (policy : Policy) (set : ValidationSet) (p : Package)
    (s : Session) :
    processOutcome (servicesWithholding other) policy set p s =
      processOutcome reconcileServices policy set p s := by
  simp only [processOutcome, settleOutcome, run_bind, logAll_servicesWithholding,
    applyTransition_servicesWithholding]
  rfl

/-- An owner is told of a publication only once the registry shows it: whatever were done in place
    of telling him too early, it would never be done. -/
theorem handleMessage_servicesWithholding (policy : Policy) (m : ValidationMessage) (s : Session) :
    handleMessage (servicesWithholding other) policy m s = handle policy m s := by
  rw [handle, handleMessage, handleMessage, run_bind, run_bind]
  rw [show (servicesWithholding other).validationSet = reconcileServices.validationSet from rfl]
  rcases reconcileServices.validationSet m.trackingId s with ⟨_ | _ | set, s₁⟩
  · rfl
  · rfl
  dsimp only
  rw [run_bind, run_bind]
  rw [show (servicesWithholding other).package = reconcileServices.package from rfl]
  rcases reconcileServices.package set.packageId set.packageNormalizedVersion s₁ with
    ⟨_ | _ | p, s₂⟩
  · rfl
  · rfl
  dsimp only
  rw [run_bind, run_bind, processOutcome_servicesWithholding]

end Withholding

/-- Over every run, the status of a package only rises, one step at a round; its owner is told of at
    most one failure and of at most one publication, the latter never before the registry shows it;
    and what is reported of it is what becomes of it, in that order. -/
theorem run_rises (s : Session) (hf : s.registry.Filed) (hst : s.registry.staged = [])
    (ts : List Round) (hts : ∀ t ∈ ts, t.Queued) (k : PackageKey) :
    (∀ c ∈ collect (changesIn k) s ts, ∃ a b, c = (some a, some b) ∧ a.rises b = true) ∧
      (∀ t : Round, t.Queued → ((s.rounds ts).callsIn t).countP Call.setsStatus ≤ 1) ∧
        (collect (noticesIn k) s ts).countP (· ≠ .published) ≤ 1 ∧
          (collect (noticesIn k) s ts).countP (· = .published) ≤ 1 ∧
            (∀ policy m other, handleMessage (servicesWithholding other) policy m (s.rounds ts) =
              handle policy m (s.rounds ts)) ∧
              (collect (reportsIn k) s ts).map (fun c => (some c.1, some c.2)) =
                collect (changesIn k) s ts := by
  have h : s.Steady := ⟨hf, hst⟩
  have hfailure : (fun n : Notice => decide (n ≠ .published)) =
      fun n => decide (n.status = .failedValidation) := by
    funext n
    cases n <;> rfl
  have hpublication : (fun n : Notice => decide (n = .published)) =
      fun n => decide (n.status = .available) := by
    funext n
    cases n <;> rfl
  refine ⟨?_, ?_, ?_, ?_, ?_, ?_⟩
  · exact h.forall_mem_collect (fun hs ht => (hs.follows ht k).rises) hts
  · intro t ht
    exact ((h.rounds ts).follows ht k).single
  · rw [hfailure]
    exact h.countP_notices_le hts k .failedValidation
  · rw [hpublication]
    exact h.countP_notices_le hts k .available
  · intro policy m other
    exact handleMessage_servicesWithholding other policy m (s.rounds ts)
  · rw [h.collect_map (fun hs ht => (hs.follows ht k).reports) hts, List.map_id]

end Session

/-! ### A package that fails before it is published -/

/-- The set of a package with one validation in some status. -/
def ValidationSet.scanned (status : ValidationStatus) : ValidationSet :=
  ⟨.ofDigit 1, "alpha", "1.0.0", .epoch, [⟨.ofDigit 2, "scan", status, []⟩]⟩

/-- A session in which a package has failed a validation and nobody has looked yet. -/
def Session.onTrial : Session :=
  .start (.ofSnapshot { Snapshot.empty with
    packages := [⟨7, "Alpha", "1.0", "1.0.0", .validating⟩]
    validationSets := [.scanned .failed] }) .empty .epoch

/-- The package is looked at twice, then its set turns out well, but its status cannot be set at
    first; and once it is published its set fails again. -/
def Round.trial : List Round :=
  let look : Round := .work (.handle (.new .zero 3) ⟨.ofDigit 1, "alpha", "1.0"⟩)
  [.work (.submit "Alpha" "1.0.0" ⟨#[1]⟩), .work (.setFaults [("notify", ⟨.other, "away"⟩)]), look,
    look, .replaceSets [.scanned .succeeded],
    .work (.setFaults [("update_package_status", ⟨.conflict, "busy"⟩)]), look, .work (.setFaults []),
    look, .replaceSets [.scanned .failed], look]

theorem Session.run_rises_trial :
    Session.onTrial.registry.Filed ∧ Session.onTrial.registry.staged = [] ∧
      (∀ t ∈ Round.trial, t.Queued) ∧
        collect (noticesIn 7) .onTrial Round.trial = [.validationFailed, .published] ∧
          collect (changesIn 7) .onTrial Round.trial =
            [(some .validating, some .failedValidation), (some .failedValidation, some .available)] ∧
            (collect (reportsIn 7) .onTrial Round.trial).map (fun c => (some c.1, some c.2)) =
              collect (changesIn 7) .onTrial Round.trial := by
  have hf : Session.onTrial.registry.Filed := Registry.filed_ofSnapshot _
  have hts : ∀ t ∈ Round.trial, t.Queued := by
    simp [Round.trial, Round.Queued, Work.Queued]
  have h := run_rises .onTrial hf rfl Round.trial hts 7
  exact ⟨hf, rfl, hts, by decide +kernel, by decide +kernel, h.2.2.2.2.2⟩

end Admission
