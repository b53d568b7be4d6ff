import Admission.Proofs.Session.Run
import Admission.Proofs.Trust.Commuting
import Admission.Proofs.Trust.Effect

/-!
Two results are saved at the same time. Saving has two phases, reading with planning and committing
with reporting, and the phases of the two calls may fall in any order (`race`). As long as the
results are for different certificates, both calls succeed and end where they end one after the
other, whichever comes first: what one of them awaits (`Awaits`) survives the phases of the other.
-/

namespace Admission

/-- A result that is to be saved, and the maximum that holds for it. -/
structure Verdict where
  maximum : UInt32
  message : CertificateMessage
  result : VerificationResult

/-- How far saving a result has come. -/
inductive Progress where
  | waiting
  | planned (plan : TrustPlan)
  | done (answer : Except TrustError Bool)

/-- The phases that are left. -/
def Progress.left : Progress → Nat
  | .waiting => 2
  | .planned _ => 1
  | .done _ => 0

/-- Whose phase comes next. -/
inductive Turn where
  | first
  | second
deriving DecidableEq

/-- Two calls that save results in one session, with how far each has come. -/
structure Race where
  first : Progress
  second : Progress
  session : Session

namespace Verdict

/-- The piece of work that saves the result in one go. -/
def work (v : Verdict) : Work := .save v.maximum v.message v.result

/-- The registry once the result is saved. -/
def settle (v : Verdict) (r : Registry) : Registry := r.settle v.maximum v.message v.result

/-- The next phase of saving the result. A call that is done does nothing more. -/
def advance (v : Verdict) : Progress → StateM Session Progress
  | .waiting => do
    match ← planResult Session.trustServices v.maximum v.message v.result with
    | .error e => return .done (.error e)
    | .ok none => return .done (.ok false)
    | .ok (some plan) => return .planned plan
  | .planned plan => do
    return .done ((← commitPlan Session.trustServices v.result plan).map fun _ => true)
  | .done answer => return .done answer

end Verdict

namespace Race

/-- The race at its start. -/
def start (s : Session) : Race := ⟨.waiting, .waiting, s⟩

/-- The race after one phase of one call. -/
def step (a b : Verdict) (c : Race) : Turn → Race
  | .first => ⟨(a.advance c.first c.session).1, c.second, (a.advance c.first c.session).2⟩
  | .second => ⟨c.first, (b.advance c.second c.session).1, (b.advance c.second c.session).2⟩

/-- The race after phases of both calls in some order. -/
def run (a b : Verdict) (c : Race) (turns : List Turn) : Race := turns.foldl (step a b) c

end Race

namespace Verdict

/-- Two phases make up the whole call. -/
theorem advance_advance (v : Verdict) (s : Session) :
    (v.advance .waiting >>= v.advance) s =
      (.done (Session.save v.maximum v.message v.result s).1,
        (Session.save v.maximum v.message v.result s).2) := by
  simp only [Session.save, saveResult, advance, Session.run_bind]
  generalize planResult Session.trustServices v.maximum v.message v.result s = x
  obtain ⟨answer, s'⟩ := x
  rcases answer with e | (_ | plan)
  · rfl
  · rfl
  · rfl

theorem left_advance (v : Verdict) (p : Progress) (s : Session) :
    (v.advance p s).1.left ≤ p.left - 1 := by
  cases p with
  | waiting =>
    simp only [advance, Session.run_bind]
    generalize planResult Session.trustServices v.maximum v.message v.result s = x
    obtain ⟨answer, s'⟩ := x
    rcases answer with e | (_ | plan)
    · exact Nat.zero_le _
    · exact Nat.zero_le _
    · exact Nat.le_refl _
  | planned plan => exact Nat.le_refl _
  | done answer => exact Nat.le_refl _

/-! ### What a call awaits -/

/-- What a call relies on: before reading, that its message resolves; before committing, that it
    still does and that the registry has only declined since the plan was made. -/
def Awaits (v : Verdict) (r : Registry) : Progress → Prop
  | .waiting => r.Resolves v.message
  | .planned plan => ∃ (x : Registry) (cert : Certificate) (att : VerificationAttempt),
      x.Filed ∧ x.Declines r ∧ r.Pending v.message cert att ∧
        plan = x.planFor v.maximum cert att v.result
  | .done answer => answer = .ok true

/-- The registry with the result in it if its call is done. -/
def upTo (v : Verdict) : Progress → Registry → Registry
  | .done _, r => v.settle r
  | _, r => r

variable {v w : Verdict} {r : Registry} {p q : Progress} {s : Session}

/-- Another result that is saved leaves what a call relies on. -/
theorem Awaits.settle (h : v.Awaits r p) (hr : r.Filed)
    (hne : v.message.certificateKey ≠ w.message.certificateKey) : v.Awaits (w.settle r) p := by
  cases p with
  | waiting =>
    obtain ⟨cert, att, hpend⟩ := Registry.resolves_iff.1 h
    exact Registry.resolves_iff.2 ⟨cert, att, hpend.settle_of_ne hr hne⟩
  | planned plan =>
    obtain ⟨x, cert, att, hx, hd, hpend, hplan⟩ := h
    exact ⟨x, cert, att, hx, hd.trans (Registry.declines_settle hr _), hpend.settle_of_ne hr hne,
      hplan⟩
  | done answer => exact h

/-- What the next phase of a call comes to when it finds what it relies on. -/
inductive Advancing (v : Verdict) (s : Session) : Progress → Progress → Session → Prop
  | planned {plan : TrustPlan} {s' : Session} (hu : s'.Untroubled)
      (hr : s'.registry = s.registry) (ha : v.Awaits s.registry (.planned plan)) :
      Advancing v s .waiting (.planned plan) s'
  | saved {plan : TrustPlan} {s' : Session} (hu : s'.Untroubled)
      (hr : s'.registry = v.settle s.registry) :
      Advancing v s (.planned plan) (.done (.ok true)) s'
  | idle : Advancing v s (.done (.ok true)) (.done (.ok true)) s

theorem advancing_waiting (h : s.registry.Resolves v.message) (hs : s.registry.Filed)
    (hu : s.Untroubled) :
    v.Advancing s .waiting (v.advance .waiting s).1 (v.advance .waiting s).2 := by
  obtain ⟨cert, att, hpend⟩ := Registry.resolves_iff.1 h
  have hplan : s.registry.plan? v.maximum v.message v.result =
      some (s.registry.planFor v.maximum cert att v.result) := hpend.plan?_eq hs
  have hread := Session.reading v.maximum v.message v.result s
  simp only [advance, Session.run_bind]
  generalize planResult Session.trustServices v.maximum v.message v.result s = x at hread ⊢
  obtain ⟨answer, s'⟩ := x
  dsimp only at hread ⊢
  cases hread with
  | failed _ hf => exact absurd (hu _) hf
  | planned =>
    rw [hplan]
    exact .planned hu rfl ⟨s.registry, cert, att, hs, .refl _, hpend, rfl⟩

theorem advancing_planned {plan : TrustPlan} (h : v.Awaits s.registry (.planned plan))
    (hs : s.registry.Filed) (hu : s.Untroubled) :
    v.Advancing s (.planned plan) (v.advance (.planned plan) s).1
      (v.advance (.planned plan) s).2 := by
  obtain ⟨x, cert, att, hx, hd, hpend, rfl⟩ := h
  have hok : s.registry.commit (x.planFor v.maximum cert att v.result).changes =
      .ok (v.settle s.registry) := hpend.commit hx hs hd
  have hcommit := Session.committing v.result (x.planFor v.maximum cert att v.result) s
  simp only [advance, Session.run_bind, Session.run_pure]
  generalize commitPlan Session.trustServices v.result _ s = y at hcommit ⊢
  obtain ⟨answer, s'⟩ := y
  dsimp only at hcommit ⊢
  cases hcommit with
  | refused he =>
    rw [hok] at he
    exact he.elim (fun hf => absurd (hu _) hf) nofun
  | committed _ hr =>
    rw [hok] at hr
    exact .saved hu (Except.ok.inj hr).symm

theorem advancing (h : v.Awaits s.registry p) (hs : s.registry.Filed) (hu : s.Untroubled) :
    v.Advancing s p (v.advance p s).1 (v.advance p s).2 := by
  cases p with
  | waiting => exact advancing_waiting h hs hu
  | planned plan => exact advancing_planned h hs hu
  | done answer =>
    obtain rfl : answer = .ok true := h
    exact .idle

/-- Results for different certificates can be left in either order. -/
theorem upTo_comm (hr : r.Filed) (hne : v.message.certificateKey ≠ w.message.certificateKey)
    (hv : r.Resolves v.message) (hw : r.Resolves w.message) :
    w.upTo q (v.upTo p r) = v.upTo p (w.upTo q r) := by
  cases p with
  | done answer =>
    cases q with
    | done answer => exact Registry.settle_comm hr hne hv hw
    | _ => rfl
  | _ => rfl

end Verdict

/-! ### What every phase keeps -/

/-- What two calls for different certificates start from. -/
structure Verdict.Apart (a b : Verdict) (r : Registry) : Prop where
  filed : r.Filed
  ne : a.message.certificateKey ≠ b.message.certificateKey
  first : r.Resolves a.message
  second : r.Resolves b.message

theorem Verdict.Apart.swap {a b : Verdict} {r : Registry} (h : a.Apart b r) : b.Apart a r :=
  ⟨h.filed, h.ne.symm, h.second, h.first⟩

namespace Race

/-- Each call finds what it relies on, and the registry holds the results of those that are done. -/
structure OnTrack (c : Race) (a b : Verdict) (r : Registry) : Prop where
  filed : c.session.registry.Filed
  untroubled : c.session.Untroubled
  registry : c.session.registry = b.upTo c.second (a.upTo c.first r)
  first : a.Awaits c.session.registry c.first
  second : b.Awaits c.session.registry c.second

/-- The race with the calls named the other way round. -/
def swap (c : Race) : Race := ⟨c.second, c.first, c.session⟩

variable {a b : Verdict} {r : Registry} {c : Race}

theorem OnTrack.swap (h : c.OnTrack a b r) (hab : a.Apart b r) : c.swap.OnTrack b a r where
  filed := h.filed
  untroubled := h.untroubled
  registry := h.registry.trans (Verdict.upTo_comm hab.filed hab.ne hab.first hab.second)
  first := h.second
  second := h.first

/-- A phase of the first call keeps the race on track. -/
theorem OnTrack.step_first (h : c.OnTrack a b r) (hab : a.Apart b r) :
    (c.step a b .first).OnTrack a b r := by
  obtain ⟨p, q, s⟩ := c
  obtain ⟨hf, hu, hreg, ha, hb⟩ := h
  dsimp only at hf hu hreg ha hb
  have hadv := Verdict.advancing ha hf hu
  simp only [step]
  generalize a.advance p s = x at hadv ⊢
  obtain ⟨p', s'⟩ := x
  dsimp only at hadv ⊢
  cases hadv with
  | planned hu' hr hplan => exact ⟨hr ▸ hf, hu', hr.trans hreg, hr ▸ hplan, hr ▸ hb⟩
  | saved hu' hr =>
    -- The second call may be done by now; then this result comes in after that one.
    have hcomm : b.upTo q (a.upTo (.done (.ok true)) r) = a.settle (b.upTo q r) :=
      Verdict.upTo_comm hab.filed hab.ne hab.first hab.second
    refine ⟨?_, hu', ?_, rfl, ?_⟩
    · rw [hr]
      exact hf.settle a.message
    · rw [hcomm, hr, hreg]
      rfl
    · rw [hr]
      exact hb.settle hf hab.ne.symm
  | idle => exact ⟨hf, hu, hreg, ha, hb⟩

theorem OnTrack.step (h : c.OnTrack a b r) (hab : a.Apart b r) (t : Turn) :
    (c.step a b t).OnTrack a b r := by
  cases t with
  | first => exact h.step_first hab
  | second =>
    -- A phase of the second call is one of the first in the race with the calls swapped.
    exact ((h.swap hab).step_first hab.swap).swap hab.swap

theorem OnTrack.run (hab : a.Apart b r) (turns : List Turn) (h : c.OnTrack a b r) :
    (c.run a b turns).OnTrack a b r := by
  induction turns generalizing c with
  | nil => exact h
  | cons t turns ih => exact ih (h.step hab t)

theorem left_run (a b : Verdict) (turns : List Turn) (c : Race) :
    (c.run a b turns).first.left ≤ c.first.left - turns.count .first ∧
      (c.run a b turns).second.left ≤ c.second.left - turns.count .second := by
  induction turns generalizing c with
  | nil => exact ⟨Nat.le_refl _, Nat.le_refl _⟩
  | cons t turns ih =>
    obtain ⟨h₁, h₂⟩ := ih (c.step a b t)
    cases t with
    | first =>
      have hleft : (c.step a b .first).first.left ≤ c.first.left - 1 := a.left_advance _ _
      rw [List.count_cons_self, List.count_cons_of_ne (by decide)]
      exact ⟨by simp only [run, List.foldl_cons] at h₁ ⊢; omega, h₂⟩
    | second =>
      have hleft : (c.step a b .second).second.left ≤ c.second.left - 1 := b.left_advance _ _
      rw [List.count_cons_self, List.count_cons_of_ne (by decide)]
      exact ⟨h₁, by simp only [run, List.foldl_cons] at h₂ ⊢; omega⟩

theorem eq_done_of_left_eq_zero {v : Verdict} {p : Progress} (h : v.Awaits r p) (hp : p.left = 0) :
    p = .done (.ok true) := by
  cases p with
  | waiting => cases hp
  | planned => cases hp
  | done answer => exact congrArg Progress.done h

/-- Once both calls have had their two phases, both are saved and the registry holds what both
    make of it. -/
theorem run_eq_settle (hab : a.Apart b r) {s : Session} (hs : s.registry = r) (hu : s.Untroubled)
    {turns : List Turn} (h₁ : 2 ≤ turns.count .first) (h₂ : 2 ≤ turns.count .second) :
    ((start s).run a b turns).first = .done (.ok true) ∧
      ((start s).run a b turns).second = .done (.ok true) ∧
        ((start s).run a b turns).session.registry = b.settle (a.settle r) := by
  subst hs
  have hstart : (start s).OnTrack a b s.registry := ⟨hab.filed, hu, rfl, hab.first, hab.second⟩
  have htrack := hstart.run hab turns
  obtain ⟨hleft₁, hleft₂⟩ := left_run a b turns (start s)
  have hwait₁ : (start s).first.left = 2 := rfl
  have hwait₂ : (start s).second.left = 2 := rfl
  have hfirst := eq_done_of_left_eq_zero htrack.first (by omega)
  have hsecond := eq_done_of_left_eq_zero htrack.second (by omega)
  refine ⟨hfirst, hsecond, ?_⟩
  have hreg := htrack.registry
  rw [hfirst, hsecond] at hreg
  exact hreg

/-- One call after the other is a race too. -/
theorem run_sequential (a b : Verdict) (s : Session) :
    ((start s).run a b [.first, .first, .second, .second]).session = s.run [a.work, b.work] := by
  have hwhole (v : Verdict) (s : Session) :
      (v.advance (v.advance .waiting s).1 (v.advance .waiting s).2).2 = s.step v.work :=
    congrArg Prod.snd (v.advance_advance s)
  simp only [run, start, List.foldl_cons, List.foldl_nil, step, hwhole]
  rfl

/-- Results for different certificates are both saved in whatever order the phases of their calls
    come, and the registry ends as if the calls had been made one after the other, in either
    order. -/
theorem run_serializes (s : Session) (hf : s.registry.Filed) (hu : s.Untroubled) (a b : Verdict)
    (hne : a.message.certificateKey ≠ b.message.certificateKey)
    (ha : s.registry.Resolves a.message) (hb : s.registry.Resolves b.message) (turns : List Turn)
    (h₁ : 2 ≤ turns.count .first) (h₂ : 2 ≤ turns.count .second) :
    ((start s).run a b turns).first = .done (.ok true) ∧
      ((start s).run a b turns).second = .done (.ok true) ∧
        ((start s).run a b turns).session.registry = (s.run [a.work, b.work]).registry ∧
          ((start s).run a b turns).session.registry = (s.run [b.work, a.work]).registry := by
  have hab : a.Apart b s.registry := ⟨hf, hne, ha, hb⟩
  have htwo : 2 ≤ [Turn.first, .first, .second, .second].count .first ∧
      2 ≤ [Turn.first, .first, .second, .second].count .second := by decide
  obtain ⟨hfirst, hsecond, hreg⟩ := run_eq_settle hab rfl hu h₁ h₂
  obtain ⟨-, -, hab'⟩ := run_eq_settle hab rfl hu htwo.1 htwo.2
  obtain ⟨-, -, hba'⟩ := run_eq_settle hab.swap rfl hu htwo.1 htwo.2
  have hcomm : b.settle (a.settle s.registry) = a.settle (b.settle s.registry) :=
    Registry.settle_comm hf hne ha hb
  rw [run_sequential] at hab' hba'
  exact ⟨hfirst, hsecond, hreg.trans hab'.symm, hreg.trans (hcomm.trans hba'.symm)⟩

/-- The first certificate of the entangled registry is revoked. -/
def revocation : Verdict := ⟨5, ⟨1, .ofDigit 1⟩, .revoked .epoch⟩

/-- The second certificate of the entangled registry is found invalid. -/
def rejection : Verdict := ⟨5, ⟨2, .ofDigit 2⟩, .invalid⟩

/-- Both results are planned before either is committed, and both take down signatures of the same
    package. -/
theorem run_serializes_entangled :
    Session.entangled.registry.Filed ∧ Session.entangled.Untroubled ∧
      revocation.Apart rejection .entangled ∧
        ((start .entangled).run revocation rejection [.first, .second, .second, .first]).first =
          .done (.ok true) ∧
          ((start .entangled).run revocation rejection
              [.first, .second, .second, .first]).session.registry =
            (Session.entangled.run [revocation.work, rejection.work]).registry := by
  have hf : Session.entangled.registry.Filed := Registry.filed_ofSnapshot _
  have hu : Session.entangled.Untroubled := Session.untroubled_of_faults_nil rfl
  have hab : revocation.Apart rejection .entangled :=
    ⟨hf, by decide, ⟨by decide, _, by rfl, rfl⟩, ⟨by decide, _, by rfl, rfl⟩⟩
  have h := run_serializes .entangled hf hu revocation rejection hab.ne hab.first hab.second
    [.first, .second, .second, .first] (by decide) (by decide)
  exact ⟨hf, hu, hab, h.1, h.2.2.1⟩

end Race

end Admission
