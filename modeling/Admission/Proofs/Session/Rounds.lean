import Admission.Proofs.Registry.Status
import Admission.Proofs.Session.Run

/-!
Runs in which the validation sets on file change as well. A round is a piece of work, or the sets
are exchanged for others. Whatever the rounds are, packages stay under their keys and nothing stays
staged (`Steady.rounds`); what each round yields can be collected over a run (`collect`), and a
statement about every round carries over (`Steady.collect_map`).
-/

namespace Admission

/-- What can happen to a session, the validation sets on file included. -/
inductive Round where
  | work (w : Work)
  | replaceSets (sets : List ValidationSet)

/-- Whether nobody hands in a package of his own. -/
def Round.Queued : Round → Prop
  | .work w => w.Queued
  | .replaceSets _ => True

/-- The package that a message is about, as it is on file. -/
def Registry.subject? (r : Registry) (m : ValidationMessage) : Option Package :=
  (r.validationSets.find? m.trackingId).bind fun set =>
    r.package? set.packageId set.packageNormalizedVersion

theorem Registry.subject?_eq_some {r : Registry} {m : ValidationMessage} {set : ValidationSet}
    {p : Package} (hset : r.validationSets.find? m.trackingId = some set)
    (hp : r.package? set.packageId set.packageNormalizedVersion = some p) :
    r.subject? m = some p := by
  rw [subject?, hset, Option.bind_some, hp]

theorem Registry.mem_of_package? {r : Registry} {id version : String} {p : Package}
    (hp : r.package? id version = some p) : p ∈ r.packages.values :=
  List.mem_of_find?_eq_some hp

namespace Session

/-- The session after one round. -/
def round (s : Session) : Round → Session
  | .work w => s.step w
  | .replaceSets sets =>
    s.withRegistry { s.registry with validationSets := .ofValues (·.trackingId) sets }

/-- The session after some rounds, one after another. -/
def rounds (s : Session) (ts : List Round) : Session := ts.foldl round s

/-- The calls made in a round. -/
def callsIn (s : Session) (t : Round) : List Call := (s.round t).calls.drop s.calls.length

/-- What each of some rounds yields, one after another. -/
def collect {α : Type} (f : Session → Round → List α) : Session → List Round → List α
  | _, [] => []
  | s, t :: ts => f s t ++ collect f (s.round t) ts

/-- Packages stand under their keys and nothing is staged. -/
structure Steady (s : Session) : Prop where
  filed : s.registry.Filed
  staged : s.registry.staged = []

variable {s : Session} {α β : Type}

theorem callsIn_eq {t : Round} {cs : List Call} (h : (s.round t).calls = s.calls ++ cs) :
    s.callsIn t = cs := by
  rw [callsIn, h, List.drop_left]

theorem Evolving.staged {r r' : Registry} (h : Evolving r r') (hs : r.staged = []) :
    r'.staged = [] := by
  cases h with
  | stayed => exact hs
  | updated hr => exact Registry.staged_updateStatus hr
  | settled maximum m result => exact (r.packages_settle m).2.trans hs

theorem filed_round (h : s.registry.Filed) (t : Round) : (s.round t).registry.Filed := by
  cases t with
  | work w => exact filed_step h w
  | replaceSets sets => exact { h with validationSets := SortedMap.filed_ofValues _ sets }

theorem filed_rounds (h : s.registry.Filed) (ts : List Round) : (s.rounds ts).registry.Filed := by
  induction ts generalizing s with
  | nil => exact h
  | cons t ts ih => exact ih (filed_round h t)

theorem Steady.round (h : s.Steady) (t : Round) : (s.round t).Steady := by
  refine ⟨filed_round h.filed t, ?_⟩
  cases t with
  | work w => exact (evolving s w).staged h.staged
  | replaceSets => exact h.staged

theorem Steady.rounds (h : s.Steady) (ts : List Round) : (s.rounds ts).Steady := by
  induction ts generalizing s with
  | nil => exact h
  | cons t ts ih => exact ih (h.round t)

/-- What agrees on every round agrees on every run. -/
theorem Steady.collect_map {γ : Type} (h : s.Steady) {f : Session → Round → List α}
    {g : Session → Round → List β} {φ : α → γ} {ψ : β → γ}
    (hfg : ∀ {s : Session} {t : Round}, s.Steady → t.Queued → (f s t).map φ = (g s t).map ψ)
    {ts : List Round} (hts : ∀ t ∈ ts, t.Queued) :
    (collect f s ts).map φ = (collect g s ts).map ψ := by
  induction ts generalizing s with
  | nil => rfl
  | cons t ts ih =>
    rw [collect, List.map_append, hfg h (hts t List.mem_cons_self),
      ih (h.round t) fun u hu => hts u (List.mem_cons_of_mem t hu), collect, List.map_append]

/-- What holds of all that a round yields holds of all that is collected. -/
theorem Steady.forall_mem_collect (h : s.Steady) {f : Session → Round → List α} {P : α → Prop}
    (hf : ∀ {s : Session} {t : Round}, s.Steady → t.Queued → ∀ a ∈ f s t, P a) {ts : List Round}
    (hts : ∀ t ∈ ts, t.Queued) : ∀ a ∈ collect f s ts, P a := by
  induction ts generalizing s with
  | nil => nofun
  | cons t ts ih =>
    intro a ha
    rcases List.mem_append.1 ha with ha | ha
    · exact hf h (hts t List.mem_cons_self) a ha
    · exact ih (h.round t) (fun u hu => hts u (List.mem_cons_of_mem t hu)) a ha

end Session

end Admission
