import Mathlib.Data.Multiset.AddSub
import Mathlib.Logic.Relation
import Admission.Proofs.Lifecycle

/-!
The queue of validation messages. A message is taken out, any one of them, and handled, in whatever
circumstances; what is scheduled meanwhile goes in, and the message goes back in if handling it ends
in an error (`Queue.deliver`). There are three ways that can go (`Queue.delivering`): the message is
back, another look at the same set is scheduled in its place, or nothing is, and then the package of
the set is not validating any more. So over every run each set whose package is validating keeps
exactly one message in the queue, and no set ever has two (`Queue.run_balanced`).
-/

namespace Admission

/-- Whether a call is to schedule another look at a set. -/
def Call.schedules : Call → Bool
  | .scheduleRecheck .. => true
  | _ => false

theorem Call.schedules_of_findsOutcome {c : Call} (h : c.findsOutcome = true) :
    c.schedules = false := by
  cases c <;> simp_all [findsOutcome, schedules]

namespace Registry

variable {r r' r'' : Registry} {p : Package} {status : PackageStatus}

/-- Validation sets are as they were, and so are packages but for their statuses, none of which has
    come to be validating. -/
structure Advances (r r' : Registry) : Prop where
  validationSets : r'.validationSets = r.validationSets
  packages : ∃ f : Package → Package, (∀ p, f p = { p with status := (f p).status }) ∧
    (∀ p, (f p).status = .validating → p.status = .validating) ∧
      ∀ id version, r'.package? id version = (r.package? id version).map f

theorem Advances.refl (r : Registry) : r.Advances r :=
  ⟨rfl, id, fun _ => rfl, fun _ => id, fun _ _ => Option.map_id_apply.symm⟩

theorem Advances.trans (h : r.Advances r') (h' : r'.Advances r'') : r.Advances r'' := by
  obtain ⟨hsets, f, hf, hvf, hpf⟩ := h
  obtain ⟨hsets', g, hg, hvg, hpg⟩ := h'
  refine ⟨hsets'.trans hsets, g ∘ f, fun p => ?_, fun p hp => hvf p (hvg (f p) hp), fun id v => ?_⟩
  · rw [Function.comp_apply, hg (f p), hf p]
  · rw [hpg, hpf, Option.map_map]

theorem advances_updateStatus (hf : r.Filed) (hs : r.staged = [])
    (h : r.updateStatus p status true = .ok r') (hst : status ≠ .validating) : r.Advances r' := by
  refine ⟨?_, fun q => if q.key = p.key then { q with status } else q, fun q => ?_, fun q => ?_,
    package?_updateStatus hf hs h⟩
  · obtain ⟨-, rfl⟩ := updateStatus_eq_ok_iff.1 h
    rfl
  · dsimp only
    split <;> rfl
  · dsimp only
    split
    · exact fun hv => absurd hv hst
    · exact id

/-- The set and the package that a message is about. -/
def Finds (r : Registry) (m : ValidationMessage) (set : ValidationSet) (p : Package) : Prop :=
  r.validationSets.find? m.trackingId = some set ∧
    r.package? set.packageId set.packageNormalizedVersion = some p

end Registry

namespace Session

variable {s s' s'' : Session} {policy : Policy} {set : ValidationSet} {p after : Package}
  {m : ValidationMessage} {ms : List ValidationMessage}

/-! ### What is scheduled -/

/-- The message that a call puts into the queue, unless it is made to fail. -/
def scheduled? (s : Session) (c : Call) : Option ValidationMessage :=
  match c with
  | .scheduleRecheck m _ => if (s.fault? c).isNone then some m else none
  | _ => none

/-- The messages that are put into the queue while a message is handled. -/
def rechecksOf (s : Session) (policy : Policy) (m : ValidationMessage) : List ValidationMessage :=
  (s.callsOf (.handle policy m)).filterMap s.scheduled?

/-- The calls made since put these messages into the queue. -/
def Enqueues (s : Session) (ms : List ValidationMessage) (s' : Session) : Prop :=
  ∃ cs, s'.calls = s.calls ++ cs ∧ cs.filterMap s.scheduled? = ms

theorem filterMap_scheduled?_eq_nil {cs : List Call} (h : ∀ c ∈ cs, c.schedules = false) :
    cs.filterMap s.scheduled? = [] := by
  rw [List.filterMap_eq_nil_iff]
  intro c hc
  have := h c hc
  cases c <;> simp_all [scheduled?, Call.schedules]

theorem enqueues_nil (h : s.CallsOnly (·.schedules = false) s') : s.Enqueues [] s' := by
  obtain ⟨cs, hcs, hc⟩ := h
  exact ⟨cs, hcs, filterMap_scheduled?_eq_nil hc⟩

theorem Enqueues.trans_callsOnly (h : s.Enqueues ms s')
    (h' : s'.CallsOnly (·.schedules = false) s'') : s.Enqueues ms s'' := by
  obtain ⟨cs, hcs, hms⟩ := h
  obtain ⟨ds, hds, hd⟩ := h'
  refine ⟨cs ++ ds, ?_, ?_⟩
  · rw [hds, hcs, List.append_assoc]
  · rw [List.filterMap_append, hms, filterMap_scheduled?_eq_nil hd, List.append_nil]

theorem Enqueues.of_noted {cs : List Call} {ls : List LogEntry}
    (h : (s.noted cs ls).Enqueues ms s') (hcs : ∀ c ∈ cs, c.schedules = false) :
    s.Enqueues ms s' := by
  obtain ⟨ds, hds, hms⟩ := h
  refine ⟨cs ++ ds, ?_, ?_⟩
  · rw [hds, calls_noted, List.append_assoc]
  · rw [List.filterMap_append, filterMap_scheduled?_eq_nil hcs]
    exact hms

/-- What comes of a message: it has failed, another look is scheduled, or the package of its set is
    not validating any more. -/
inductive Sequel (s : Session) (set : ValidationSet) (p : Package) : Bool → Session → Prop
  | failed {s' : Session} (he : s.Enqueues [] s') (hr : s'.registry = s.registry) :
      Sequel s set p false s'
  | again {s' : Session} (he : s.Enqueues [.recheck set p] s') (hr : s'.registry = s.registry) :
      Sequel s set p true s'
  | settled {s' : Session} (he : s.Enqueues [] s') (hr : s'.registry = s.registry)
      (hst : p.status ≠ .validating) : Sequel s set p true s'
  | changed {status : PackageStatus} {s' : Session} (he : s.Enqueues [] s')
      (hr : s.registry.updateStatus p status true = .ok s'.registry) (hst : status ≠ .validating) :
      Sequel s set p true s'

theorem status_ne_validating {c : Classification}
    (ht : nextTransition p.status c = .unchanged) : p.status ≠ .validating := by
  intro hv
  rw [hv] at ht
  cases c <;> cases ht

theorem Publishing.unscheduling {answer : Except ReconcileError Unit}
    (h : Publishing s p answer s') : s.CallsOnly (·.schedules = false) s' := by
  cases h <;> exact ⟨_, rfl, by simp [Call.schedules]⟩

theorem Applying.sequel {answer : Except ReconcileError (Option Instant)}
    (h : Applying s policy set p after answer s') : Sequel s set p answer.isOk s' := by
  cases h with
  | unchanged ht =>
    exact .settled (enqueues_nil (.of_calls_eq rfl)) rfl (status_ne_validating ht)
  | unpublished _ hp => exact .failed (enqueues_nil hp.unscheduling) hp.registry_eq
  | promoted _ hp =>
    refine .changed (enqueues_nil ?_) hp.updateStatus_eq nofun
    exact hp.unscheduling.trans (callsOnly_noted _ (by simp [Call.schedules]))
  | unrejected => exact .failed (enqueues_nil (callsOnly_noted _ (by simp [Call.schedules]))) rfl
  | rejected _ _ _ hu =>
    refine .changed (enqueues_nil ?_) hu nofun
    exact ⟨_, rfl, by simp [Call.schedules]⟩
  | beyond => exact .failed (enqueues_nil (.of_calls_eq rfl)) rfl
  | @unscheduled t _ _ hf =>
    exact .failed ⟨[.scheduleRecheck (.recheck set p) t], rfl, by simp [scheduled?, hf]⟩ rfl
  | @scheduled t _ _ hf =>
    exact .again ⟨[.scheduleRecheck (.recheck set p) t], rfl, by simp [scheduled?, hf]⟩ rfl

/-- Calls that schedule nothing do not matter, before and after. -/
theorem Sequel.widen {cs : List Call} {ls : List LogEntry} {ok : Bool}
    (h : (s.noted cs ls).Sequel set p ok s') (hcs : ∀ c ∈ cs, c.schedules = false)
    (h' : s'.CallsOnly (·.schedules = false) s'') (hr : s''.registry = s'.registry) :
    s.Sequel set p ok s'' := by
  cases h with
  | failed he hr' => exact .failed ((he.of_noted hcs).trans_callsOnly h') (hr.trans hr')
  | again he hr' => exact .again ((he.of_noted hcs).trans_callsOnly h') (hr.trans hr')
  | settled he hr' hst => exact .settled ((he.of_noted hcs).trans_callsOnly h') (hr.trans hr') hst
  | changed he hr' hst =>
    exact .changed ((he.of_noted hcs).trans_callsOnly h') (hr.symm ▸ hr') hst

theorem Processing.sequel {answer : Except ReconcileError ReconcileOutcome}
    (h : Processing s policy set p after answer s') : Sequel s set p answer.isOk s' := by
  cases h with
  | beyond ha => exact ha.sequel.widen (List.forall_mem_nil _) (.of_calls_eq rfl) rfl
  | @reported answer _ _ _ _ _ ha hts =>
    have hok (f : Option Instant → ReconcileOutcome) : (answer.map f).isOk = answer.isOk := by
      cases answer <;> rfl
    rw [hok]
    refine ha.sequel.widen (List.forall_mem_nil _)
      (((callsOnly_reporting ?_).trans (callsOnly_logged _)).trans (callsOnly_reporting ?_)) rfl
    all_goals simp [Call.schedules]

/-- Handling a message fails, or it finds the set and the package of the message and deals with
    them. -/
theorem Handling.sequel {answer : Except ReconcileError ReconcileOutcome}
    (h : Handling s policy m answer s') :
    (answer.isOk = false ∧ s.Enqueues [] s' ∧ s'.registry = s.registry) ∨
      ∃ set p, s.registry.Finds m set p ∧ Sequel s set p answer.isOk s' := by
  cases h with
  | unread _ _ hcs =>
    refine .inl ⟨rfl, enqueues_nil (callsOnly_noted _ ?_), rfl⟩
    exact fun c hc => Call.schedules_of_findsOutcome (hcs c hc)
  | unknownSet => exact .inl ⟨rfl, enqueues_nil (callsOnly_noted _ (by simp [Call.schedules])), rfl⟩
  | unknownPackage =>
    exact .inl ⟨rfl, enqueues_nil (callsOnly_noted _ (by simp [Call.schedules])), rfl⟩
  | @processed set p _ _ _ hset hp h =>
    exact .inr ⟨set, p, ⟨hset, hp⟩,
      h.sequel.widen (by simp [Call.schedules]) (.of_calls_eq rfl) rfl⟩

theorem Enqueues.rechecksOf_eq (h : s.Enqueues ms (handle policy m s).2) :
    s.rechecksOf policy m = ms := by
  obtain ⟨cs, hcs, hms⟩ := h
  rw [rechecksOf, callsOf, step, hcs, List.drop_left, hms]

end Session

/-! ### The queue -/

/-- A registry and the messages that are waiting. -/
structure Queue where
  registry : Registry
  messages : Multiset ValidationMessage

/-- A message to be handled, under a policy and in the circumstances of a session: files, clock and
    failures. -/
structure Delivery where
  message : ValidationMessage
  policy : Policy
  session : Session

namespace Queue

open Session

/-- The session in which a message is handled. -/
def sessionFor (q : Queue) (d : Delivery) : Session := d.session.withRegistry q.registry

/-- The messages that are scheduled while a message is handled. -/
def rechecks (q : Queue) (d : Delivery) : List ValidationMessage :=
  (q.sessionFor d).rechecksOf d.policy d.message

/-- What handling a message answers. -/
def answer (q : Queue) (d : Delivery) : Except ReconcileError ReconcileOutcome :=
  (handle d.policy d.message (q.sessionFor d)).1

/-- The queue after a message is taken out and handled. What is scheduled goes in, and the message
    goes back if handling it ends in an error. -/
def deliver (q : Queue) (d : Delivery) : Queue where
  registry := (handle d.policy d.message (q.sessionFor d)).2.registry
  messages := q.messages.erase d.message +
    (q.rechecks d + if (q.answer d).isOk then 0 else {d.message})

/-- A message can be handled if it is in the queue and the clock does not run out meanwhile. -/
structure Offers (q : Queue) (d : Delivery) : Prop where
  mem : d.message ∈ q.messages
  inTime : q.answer d ≠ .error .beyondLastInstant

/-- Some message is handled. -/
def Step (q q' : Queue) : Prop := ∃ d, q.Offers d ∧ q' = q.deliver d

/-- The number of messages with a tracking identifier. -/
def waiting (q : Queue) (id : Uuid) : Nat := q.messages.countP (·.trackingId = id)

/-- No set has two messages, and a set whose package is validating has one. -/
structure Balanced (q : Queue) : Prop where
  single : ∀ set ∈ q.registry.validationSets.values, q.waiting set.trackingId ≤ 1
  awaited : ∀ set ∈ q.registry.validationSets.values, ∀ p,
    q.registry.package? set.packageId set.packageNormalizedVersion = some p →
      p.status = .validating → q.waiting set.trackingId = 1

/-- Packages and sets stand under their keys and nothing is staged. -/
structure Steady (q : Queue) : Prop where
  filed : q.registry.Filed
  staged : q.registry.staged = []

variable {q q' q₀ : Queue} {d : Delivery}

theorem Steady.deliver (h : q.Steady) (d : Delivery) : (q.deliver d).Steady where
  filed := filed_step h.filed (.handle d.policy d.message)
  staged := (evolving (q.sessionFor d) (.handle d.policy d.message)).staged h.staged

/-- What a delivery makes of a queue: the message is back, another look at its set is scheduled in
    its place, or there is none and the package of the set is not validating. -/
inductive Delivering (q : Queue) (d : Delivery) : Queue → Prop
  | returned {q' : Queue} (hr : q'.registry = q.registry)
      (hm : q'.messages = q.messages.erase d.message + {d.message}) (hno : q.rechecks d = []) :
      Delivering q d q'
  | again {set : ValidationSet} {p : Package} {q' : Queue}
      (hfind : q.registry.Finds d.message set p) (hr : q'.registry = q.registry)
      (hm : q'.messages = q.messages.erase d.message + {.recheck set p})
      (hone : q.rechecks d = [.recheck set p]) : Delivering q d q'
  | settled {set : ValidationSet} {p p' : Package} {q' : Queue}
      (hfind : q.registry.Finds d.message set p) (hr : q.registry.Advances q'.registry)
      (hm : q'.messages = q.messages.erase d.message) (hno : q.rechecks d = [])
      (hp : q'.registry.Finds d.message set p') (hst : p'.status ≠ .validating) : Delivering q d q'

theorem Steady.delivering (h : q.Steady) (d : Delivery) : q.Delivering d (q.deliver d) := by
  have hmessages {ms : List ValidationMessage} {ok : Bool} (hms : q.rechecks d = ms)
      (hok : (q.answer d).isOk = ok) : (q.deliver d).messages =
        q.messages.erase d.message + (ms + if ok then 0 else {d.message}) := by
    rw [Queue.deliver, hms, hok]
  rcases (handling d.policy d.message (q.sessionFor d)).sequel with
    ⟨hok, he, hr⟩ | ⟨set, p, (hfind : q.registry.Finds d.message set p), hsequel⟩
  · exact .returned hr (by simp [hmessages he.rechecksOf_eq hok]) he.rechecksOf_eq
  · generalize hs' : (handle d.policy d.message (q.sessionFor d)).2 = s' at hsequel
    generalize hok : (handle d.policy d.message (q.sessionFor d)).1.isOk = ok at hsequel
    cases hsequel with
    | failed he hr =>
      subst hs'
      exact .returned hr (by simp [hmessages he.rechecksOf_eq hok]) he.rechecksOf_eq
    | again he hr =>
      subst hs'
      exact .again hfind hr (by simp [hmessages he.rechecksOf_eq hok]) he.rechecksOf_eq
    | settled he hr hst =>
      subst hs'
      have hsame : (q.deliver d).registry = q.registry := hr
      exact .settled hfind (hsame ▸ .refl _) (by simp [hmessages he.rechecksOf_eq hok])
        he.rechecksOf_eq (hsame ▸ hfind) hst
    | @changed status _ he hr hst =>
      subst hs'
      have hadv : q.registry.Advances (q.deliver d).registry :=
        Registry.advances_updateStatus h.filed h.staged hr hst
      have hfound := Registry.package?_updateStatus h.filed h.staged hr set.packageId
        set.packageNormalizedVersion
      rw [hfind.2, Option.map_some, if_pos rfl] at hfound
      have hfind' : (q.deliver d).registry.Finds d.message set { p with status } :=
        ⟨hadv.validationSets ▸ hfind.1, hfound⟩
      exact .settled hfind hadv (by simp [hmessages he.rechecksOf_eq hok]) he.rechecksOf_eq hfind'
        hst

theorem Delivering.advances (h : q.Delivering d q') : q.registry.Advances q'.registry := by
  cases h with
  | returned hr => exact hr ▸ .refl _
  | again _ hr => exact hr ▸ .refl _
  | settled _ hr => exact hr

/-- What is waiting without a message that is. -/
theorem waiting_eq (hm : d.message ∈ q.messages) (id : Uuid) :
    q.waiting id = (q.messages.erase d.message).countP (·.trackingId = id) +
      if d.message.trackingId = id then 1 else 0 := by
  rw [waiting, ← Multiset.countP_cons, Multiset.cons_erase hm]

theorem waiting_of_exchanged {m : ValidationMessage} (hm : d.message ∈ q.messages)
    (hid : m.trackingId = d.message.trackingId)
    (h : q'.messages = q.messages.erase d.message + {m}) (id : Uuid) :
    q'.waiting id = q.waiting id := by
  rw [waiting_eq hm, waiting, h, Multiset.countP_add, ← Multiset.cons_zero m,
    Multiset.countP_cons, Multiset.countP_zero, Nat.zero_add, hid]

theorem Balanced.of_eq (h : q.Balanced) (hr : q'.registry = q.registry)
    (hw : ∀ id, q'.waiting id = q.waiting id) : q'.Balanced where
  single := by
    intro set hset
    rw [hr] at hset
    rw [hw]
    exact h.single set hset
  awaited := by
    intro set hset p hp hv
    rw [hr] at hset hp
    rw [hw]
    exact h.awaited set hset p hp hv

/-- One delivery keeps the balance. -/
theorem Delivering.balanced (h : q.Delivering d q') (hf : q.registry.Filed) (hb : q.Balanced)
    (hm : d.message ∈ q.messages) : q'.Balanced := by
  cases h with
  | returned hr hq' => exact hb.of_eq hr (waiting_of_exchanged hm rfl hq')
  | again hfind hr hq' =>
    exact hb.of_eq hr (waiting_of_exchanged hm (hf.validationSets.key_eq hfind.1) hq')
  | @settled set₀ p₀ p' _ hfind hr hq' _ hp' hst =>
    have hwaiting (id : Uuid) : q.waiting id =
        q'.waiting id + if d.message.trackingId = id then 1 else 0 := by
      rw [waiting_eq hm, waiting, hq']
    constructor
    · intro set hset
      rw [hr.validationSets] at hset
      have hsingle := hb.single set hset
      rw [hwaiting] at hsingle
      omega
    · intro set hset p hp hv
      rw [hr.validationSets] at hset
      -- The set of the message is out of the question: its package is not validating any more.
      have hother : d.message.trackingId ≠ set.trackingId := by
        intro hid
        have hfound := hf.validationSets.mem_values_iff.1 hset
        rw [← hid, hfind.1] at hfound
        rw [← Option.some.inj hfound, hp'.2] at hp
        rw [Option.some.inj hp] at hst
        exact hst hv
      obtain ⟨f, -, hback, hpackages⟩ := hr.packages
      rw [hpackages, Option.map_eq_some_iff] at hp
      obtain ⟨old, hold, rfl⟩ := hp
      have hone := hb.awaited set hset old hold (hback old hv)
      rw [hwaiting, if_neg hother] at hone
      exact hone

/-! ### Runs -/

theorem Steady.step (h : q.Steady) (hs : q.Step q') :
    q'.Steady ∧ q.registry.Advances q'.registry := by
  obtain ⟨d, -, rfl⟩ := hs
  exact ⟨h.deliver d, (h.delivering d).advances⟩

theorem Steady.run (h : q.Steady) (hrun : Relation.ReflTransGen Step q q') :
    q'.Steady ∧ q.registry.Advances q'.registry := by
  induction hrun with
  | refl => exact ⟨h, .refl _⟩
  | tail _ hstep ih =>
    obtain ⟨hsteady, hadv⟩ := ih.1.step hstep
    exact ⟨hsteady, ih.2.trans hadv⟩

theorem Balanced.run (hb : q.Balanced) (h : q.Steady) (hrun : Relation.ReflTransGen Step q q') :
    q'.Balanced := by
  induction hrun with
  | refl => exact hb
  | tail hrun hstep ih =>
    obtain ⟨d, hoffers, rfl⟩ := hstep
    have hsteady := (h.run hrun).1
    exact (hsteady.delivering d).balanced hsteady.filed ih hoffers.mem

/-- Another look that is scheduled finds, whenever it is taken, the set and the package that were
    found when it was scheduled. -/
theorem Steady.finds_recheck (h : q.Steady) {m : ValidationMessage} (hm : m ∈ q.rechecks d)
    (hrun : Relation.ReflTransGen Step (q.deliver d) q') :
    ∃ set p p', q.registry.Finds d.message set p ∧ q'.registry.Finds m set p' ∧
      p' = { p with status := p'.status } := by
  have hdel := h.delivering d
  have hadv := hdel.advances.trans ((h.deliver d).run hrun).2
  cases hdel with
  | returned _ _ hno =>
    rw [hno] at hm
    cases hm
  | @again set p _ hfind _ _ hone =>
    rw [hone, List.mem_singleton] at hm
    subst hm
    obtain ⟨f, hf, -, hpackages⟩ := hadv.packages
    have hid : set.trackingId = d.message.trackingId := h.filed.validationSets.key_eq hfind.1
    refine ⟨set, p, f p, hfind, ⟨?_, ?_⟩, hf p⟩
    · rw [hadv.validationSets, ← hfind.1, ← hid]
      rfl
    · rw [hpackages, hfind.2, Option.map_some]
  | settled _ _ _ hno =>
    rw [hno] at hm
    cases hm

/-- From a queue in balance, over every run, each set whose package is validating has exactly one
    message in the queue, and no set has two; and every look that is scheduled on the way finds,
    whenever it is taken, the same set and the same package as the message that it comes from. -/
theorem run_balanced {q₀ q : Queue} (hs : q₀.Steady) (hb : q₀.Balanced)
    (hrun : Relation.ReflTransGen Step q₀ q) :
    q.Balanced ∧ ∀ d, q.Offers d → ∀ m ∈ q.rechecks d, ∀ q',
      Relation.ReflTransGen Step (q.deliver d) q' →
        ∃ set p p', q.registry.Finds d.message set p ∧ q'.registry.Finds m set p' ∧
          p' = { p with status := p'.status } :=
  ⟨hb.run hs hrun, fun _ _ _ hm _ hrun' => (hs.run hrun).1.finds_recheck hm hrun'⟩

/-- Two sets of one package, of which one is not finished and the other has failed. -/
def contested : Queue where
  registry := .ofSnapshot { Snapshot.empty with
    packages := [⟨7, "Alpha", "1.0", "1.0.0", .validating⟩]
    validationSets := [.scanned .incomplete, { ValidationSet.scanned .failed with
      trackingId := .ofDigit 2 }] }
  messages := {⟨.ofDigit 1, "alpha", "1.0"⟩, ⟨.ofDigit 2, "alpha", "1.0"⟩}

/-- A look at the set with a number, with some failures made to happen. -/
def look (n : Nat) (faults : List (String × Fault)) : Delivery :=
  ⟨⟨.ofDigit n, "alpha", "1.0"⟩, .new .zero 3, { Session.start .empty .empty .epoch with faults }⟩

/-- The first look cannot be scheduled again and is taken once more, the second one rejects the
    package. -/
theorem run_balanced_contested :
    let d := look 1 []
    let q := contested.deliver (look 1 [("schedule_recheck", ⟨.other, "busy"⟩)])
    let q' := (q.deliver d).deliver (look 2 [])
    contested.Steady ∧ contested.Balanced ∧ Relation.ReflTransGen Step contested q' ∧
      q.rechecks d = [⟨.ofDigit 1, "alpha", "1.0"⟩] ∧
        q'.messages = {⟨.ofDigit 1, "alpha", "1.0"⟩} ∧ q'.Balanced ∧
          ∃ set p p', q.registry.Finds d.message set p ∧
            q'.registry.Finds ⟨.ofDigit 1, "alpha", "1.0"⟩ set p' ∧
              p' = { p with status := p'.status } := by
  intro d q q'
  have hs : contested.Steady := ⟨Registry.filed_ofSnapshot _, rfl⟩
  have hone : ∀ set ∈ contested.registry.validationSets.values,
      contested.waiting set.trackingId = 1 := by decide +kernel
  have hb : contested.Balanced :=
    ⟨fun set hset => (hone set hset).le, fun set hset _ _ _ => hone set hset⟩
  have hfirst : contested.Step q := ⟨_, ⟨by decide +kernel, by decide +kernel⟩, rfl⟩
  have hoffers : q.Offers d := ⟨by decide +kernel, by decide +kernel⟩
  have hlast : (q.deliver d).Step q' := ⟨look 2 [], ⟨by decide +kernel, by decide +kernel⟩, rfl⟩
  have hrun : Relation.ReflTransGen Step contested q' :=
    .tail (.tail (.single hfirst) ⟨d, hoffers, rfl⟩) hlast
  have hrechecks : q.rechecks d = [⟨.ofDigit 1, "alpha", "1.0"⟩] := by decide +kernel
  have hfinds := (run_balanced hs hb (.single hfirst)).2 d hoffers _
    (hrechecks ▸ List.mem_singleton_self _) q' (.single hlast)
  exact ⟨hs, hb, hrun, hrechecks, by decide +kernel, (run_balanced hs hb hrun).1, hfinds⟩

end Queue

end Admission
