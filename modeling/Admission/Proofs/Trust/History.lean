import Mathlib.Algebra.Group.Nat.Defs
import Mathlib.Data.List.DropRight
import Mathlib.Data.List.Infix
import Admission.Proofs.Trust.Effect
import Admission.Proofs.Trust.Rounds

/-!
The record of a certificate as a function of the results saved for it, in the order in which they
were saved. A good result makes all that came before it forgotten, so failures and revocations count
from the last good one on; the status is the last one that a result has set, where an unknown result
sets one only if the failures have reached the maximum by then. The step is one result that is
judged (`Certificate.Reflects.judge`); the run is over rounds of any kind, of which only those that
save a result for the certificate add to its history (`Session.reflects_rounds`).
-/

namespace Admission

/-- The results that have come after the last good one. -/
def sinceGood (rs : List VerificationResult) : List VerificationResult := rs.rtakeWhile (· != .good)

/-- The time of revocation that a result tells, if it tells one. -/
def VerificationResult.revocationTime? : VerificationResult → Option Instant
  | .revoked time => some time
  | _ => none

namespace Certificate

/-- The failures counted after some results: the unknown ones since the last good one, on top of
    those there were before if there is none, up to the largest number of 32 bits. -/
def failuresAfter (c : Certificate) (rs : List VerificationResult) : Nat :=
  min (2 ^ 32 - 1)
    ((sinceGood rs).count .unknown + if .good ∈ rs then 0 else c.validationFailures.toNat)

/-- The time of revocation after some results: the last one told since the last good one, or the one
    there was before if there is no good one. -/
def revocationTimeAfter (c : Certificate) (rs : List VerificationResult) : Option Instant :=
  ((sinceGood rs).filterMap (·.revocationTime?)).getLast?.or
    (if .good ∈ rs then none else c.revocationTime)

/-- The status that the last of some results sets, if it sets one. -/
def statusSetBy (c : Certificate) (maximum : UInt32) (rs : List VerificationResult) :
    Option CertificateStatus :=
  rs.getLast?.bind fun
    | .unknown => if maximum.toNat ≤ c.failuresAfter rs then some .invalid else none
    | result => some result.status

/-- The status after some results: the last one set by any of them, or the one there was before. -/
def statusAfter (c : Certificate) (maximum : UInt32) (rs : List VerificationResult) :
    CertificateStatus :=
  (rs.inits.filterMap (c.statusSetBy maximum)).getLast?.getD c.status

/-- What a certificate is on record as after some results, saved one after another. -/
structure Reflects (c : Certificate) (maximum : UInt32) (rs : List VerificationResult)
    (c' : Certificate) : Prop where
  key : c'.key = c.key
  thumbprint : c'.thumbprint = c.thumbprint
  validationFailures : c'.validationFailures.toNat = c.failuresAfter rs
  revocationTime : c'.revocationTime = c.revocationTimeAfter rs
  status : c'.status = c.statusAfter maximum rs

end Certificate

/-! ### One more result -/

theorem toNat_saturatingSucc (n : UInt32) :
    (saturatingSucc n).toNat = min (2 ^ 32 - 1) (n.toNat + 1) := by
  have hn := n.toNat_lt
  rw [saturatingSucc]
  split
  · rw [UInt32.toNat_add, UInt32.toNat_one]
    omega
  · omega

section Concat

variable (c : Certificate) (maximum : UInt32) (rs : List VerificationResult)

theorem sinceGood_concat (result : VerificationResult) :
    sinceGood (rs ++ [result]) = if result = .good then [] else sinceGood rs ++ [result] := by
  rw [sinceGood, List.rtakeWhile_concat]
  by_cases h : result = .good <;> simp [h, sinceGood]

/-- Only good and unknown results bear on the count. -/
theorem failuresAfter_concat (result : VerificationResult) :
    c.failuresAfter (rs ++ [result]) =
      match result with
      | .good => 0
      | .unknown => min (2 ^ 32 - 1) (c.failuresAfter rs + 1)
      | _ => c.failuresAfter rs := by
  cases result with
  | good => simp [Certificate.failuresAfter, sinceGood_concat]
  | unknown =>
    simp only [Certificate.failuresAfter, sinceGood_concat, reduceCtorEq, if_false,
      List.count_append, List.count_singleton_self, List.mem_append, List.mem_singleton, or_false]
    omega
  | _ => simp [Certificate.failuresAfter, sinceGood_concat]

theorem revocationTimeAfter_concat (result : VerificationResult) :
    c.revocationTimeAfter (rs ++ [result]) =
      match result with
      | .good => none
      | .revoked time => some time
      | _ => c.revocationTimeAfter rs := by
  cases result <;> simp [Certificate.revocationTimeAfter, sinceGood_concat,
    VerificationResult.revocationTime?, List.filterMap_append]

theorem statusAfter_concat (result : VerificationResult) :
    c.statusAfter maximum (rs ++ [result]) =
      (c.statusSetBy maximum (rs ++ [result])).getD (c.statusAfter maximum rs) := by
  rw [Certificate.statusAfter, List.inits_append]
  cases h : c.statusSetBy maximum (rs ++ [result]) <;>
    simp [Certificate.statusAfter, h, List.filterMap_append, List.getLast?_append]

end Concat

namespace Certificate

theorem Reflects.refl (c : Certificate) (maximum : UInt32) : c.Reflects maximum [] c := by
  have hlt := c.validationFailures.toNat_lt
  refine ⟨rfl, rfl, ?_, rfl, rfl⟩
  simp only [failuresAfter, sinceGood, List.rtakeWhile_nil, List.count_nil, List.not_mem_nil,
    if_false]
  omega

/-- One more result judged is one more result reflected. -/
theorem Reflects.judge {c c' : Certificate} {maximum : UInt32} {rs : List VerificationResult}
    (h : c.Reflects maximum rs c') (att : VerificationAttempt) (result : VerificationResult) :
    c.Reflects maximum (rs ++ [result]) (judge maximum c' att result).certificate := by
  have hcount := failuresAfter_concat c rs result
  have htime := revocationTimeAfter_concat c rs result
  have hstatus := statusAfter_concat c maximum rs result
  rw [statusSetBy, List.getLast?_concat] at hstatus
  cases result with
  | good => exact ⟨h.key, h.thumbprint, hcount.symm, htime.symm, hstatus.symm⟩
  | invalid =>
    exact ⟨h.key, h.thumbprint, h.validationFailures.trans hcount.symm,
      h.revocationTime.trans htime.symm, hstatus.symm⟩
  | revoked time =>
    exact ⟨h.key, h.thumbprint, h.validationFailures.trans hcount.symm, htime.symm, hstatus.symm⟩
  | unknown =>
    have hfailures : (saturatingSucc c'.validationFailures).toNat =
        c.failuresAfter (rs ++ [.unknown]) := by
      rw [toNat_saturatingSucc, h.validationFailures, hcount]
    dsimp only [Option.bind_some] at hstatus
    rw [← hfailures] at hstatus
    rw [Admission.judge]
    dsimp only
    split
    · rename_i hmax
      rw [if_pos (UInt32.le_iff_toNat_le.1 hmax)] at hstatus
      exact ⟨h.key, h.thumbprint, hfailures, h.revocationTime.trans htime.symm, hstatus.symm⟩
    · rename_i hmax
      rw [if_neg (mt UInt32.le_iff_toNat_le.2 hmax)] at hstatus
      exact ⟨h.key, h.thumbprint, hfailures, h.revocationTime.trans htime.symm,
        h.status.trans hstatus.symm⟩

end Certificate

/-! ### Rounds -/

/-- Whether a round saves results, if any, with one maximum. -/
def Round.Under (maximum : UInt32) : Round → Prop
  | .work (.save maximum' _ _) => maximum' = maximum
  | _ => True

namespace Session

/-- The results that a round saves for a certificate. -/
def savedIn (k : CertificateKey) (s : Session) : Round → List VerificationResult
  | .work (.save maximum m result) =>
    if m.certificateKey = k ∧ s.saves maximum m result = true then [result] else []
  | _ => []

theorem savedIn_eq_nil {s : Session} {t : Round} (h : s.savesIn t = false) (k : CertificateKey) :
    savedIn k s t = [] := by
  cases t with
  | work w => cases w <;> simp_all [savesIn, savedIn]
  | replaceSets => rfl

variable {s : Session} {k : CertificateKey} {c c' : Certificate} {maximum : UInt32}
  {rs : List VerificationResult}

theorem reflects_round (h : c.Reflects maximum rs c') (hf : s.registry.Filed)
    (hc' : s.registry.certificates.find? k = some c') {t : Round} (ht : t.Under maximum) :
    ∃ c'', (s.round t).registry.certificates.find? k = some c'' ∧
      c.Reflects maximum (rs ++ savedIn k s t) c'' := by
  have hj := judging s t
  generalize s.round t = s' at hj ⊢
  cases hj with
  | @saved maximum' m result _ _ _ hsaved hp hr =>
    obtain rfl : maximum = maximum' := Eq.symm ht
    obtain ⟨cert, att, hcert, -, -, rfl⟩ := (Registry.plan?_eq_some_iff hf).1 hp
    have hkey : cert.key = m.certificateKey := hf.certificates.key_eq hcert
    have hfind : s'.registry.certificates.find? k =
        if k = m.certificateKey then some (judge maximum cert att result).certificate
        else s.registry.certificates.find? k := by
      rw [hr, Registry.find?_certificates_put_planFor, hkey]
    by_cases hk : m.certificateKey = k
    · subst hk
      obtain rfl := Option.some.inj (hcert.symm.trans hc')
      rw [savedIn, if_pos ⟨rfl, hsaved⟩]
      exact ⟨_, hfind.trans (if_pos rfl), h.judge att result⟩
    · rw [savedIn, if_neg fun hand => hk hand.1, List.append_nil]
      exact ⟨c', (hfind.trans (if_neg (Ne.symm hk))).trans hc', h⟩
  | undisturbed hunsaved hr =>
    rw [savedIn_eq_nil hunsaved, List.append_nil, hr.certificates]
    exact ⟨c', hc', h⟩

theorem reflects_rounds (h : c.Reflects maximum rs c') (hf : s.registry.Filed)
    (hc' : s.registry.certificates.find? k = some c') {ts : List Round}
    (hts : ∀ t ∈ ts, t.Under maximum) :
    ∃ c'', (s.rounds ts).registry.certificates.find? k = some c'' ∧
      c.Reflects maximum (rs ++ collect (savedIn k) s ts) c'' := by
  induction ts generalizing s rs c' with
  | nil => exact ⟨c', hc', by rwa [collect, List.append_nil]⟩
  | cons t ts ih =>
    obtain ⟨c₁, hc₁, h₁⟩ := reflects_round h hf hc' (hts t List.mem_cons_self)
    obtain ⟨c₂, hc₂, h₂⟩ :=
      ih h₁ (filed_round hf t) hc₁ fun u hu => hts u (List.mem_cons_of_mem t hu)
    rw [List.append_assoc] at h₂
    exact ⟨c₂, hc₂, h₂⟩

/-- Over every run with one maximum, the record of a certificate is told by the record at the start
    and the results that were saved for it, whatever else happens and fails in between. -/
theorem rounds_reflect_history (s : Session) (hf : s.registry.Filed) (k : CertificateKey)
    (c : Certificate) (hc : s.registry.certificates.find? k = some c) (maximum : UInt32)
    (ts : List Round) (hts : ∀ t ∈ ts, t.Under maximum) :
    ∃ c', (s.rounds ts).registry.certificates.find? k = some c' ∧
      c.Reflects maximum (collect (savedIn k) s ts) c' :=
  reflects_rounds (.refl c maximum) hf hc hts

end Session

/-! ### A certificate with a long history -/

/-- A certificate whose failures cannot be counted any higher, with five attempts pending. -/
def Certificate.watched : Certificate := ⟨1, "one", .unknown, 4294967295, some .firstMinute⟩

/-- A session on the watched certificate and another one. -/
def Session.watched : Session :=
  .start (.ofSnapshot { Snapshot.empty with
    certificates := [.watched, ⟨2, "two", .good, 0, none⟩]
    attempts := [⟨.ofDigit 1, 1, none⟩, ⟨.ofDigit 2, 1, none⟩, ⟨.ofDigit 3, 1, none⟩,
      ⟨.ofDigit 4, 1, none⟩, ⟨.ofDigit 5, 1, none⟩, ⟨.ofDigit 6, 2, none⟩] }) .empty .epoch

/-- Results for the watched certificate, of which the second comes too late and the third cannot be
    committed, with one for the other certificate in between. -/
def Round.watch : List Round :=
  let save (digit : Nat) (result : VerificationResult) : Round :=
    .work (.save 3 ⟨1, .ofDigit digit⟩ result)
  [save 1 .unknown, save 1 .invalid, .work (.setFaults [("commit", ⟨.conflict, "busy"⟩)]),
    save 2 .good, .work (.setFaults []), .work (.save 3 ⟨2, .ofDigit 6⟩ .invalid),
    save 2 (.revoked .epoch), save 3 .good,
    .work (.handle (.new .zero 3) ⟨.ofDigit 0, "alpha", "1.0"⟩), save 4 (.revoked .firstMinute),
    save 5 .unknown]

theorem Session.rounds_reflect_history_watched :
    let c' : Certificate := ⟨1, "one", .revoked, 1, some .firstMinute⟩
    let rs : List VerificationResult :=
      [.unknown, .revoked .epoch, .good, .revoked .firstMinute, .unknown]
    Session.watched.registry.Filed ∧
      Session.watched.registry.certificates.find? 1 = some .watched ∧
        (∀ t ∈ Round.watch, t.Under 3) ∧ collect (savedIn 1) .watched Round.watch = rs ∧
          (Session.watched.rounds Round.watch).registry.certificates.find? 1 = some c' ∧
            Certificate.watched.Reflects 3 rs c' := by
  intro c' rs
  have hf : Session.watched.registry.Filed := Registry.filed_ofSnapshot _
  have hc : Session.watched.registry.certificates.find? 1 = some .watched := by decide +kernel
  have hts : ∀ t ∈ Round.watch, t.Under 3 := by simp [Round.watch, Round.Under]
  have hrs : collect (savedIn 1) .watched Round.watch = rs := by decide +kernel
  have hc' : (Session.watched.rounds Round.watch).registry.certificates.find? 1 = some c' := by
    decide +kernel
  obtain ⟨c'', hc'', h⟩ := rounds_reflect_history .watched hf 1 .watched hc 3 Round.watch hts
  obtain rfl := Option.some.inj (hc'.symm.trans hc'')
  exact ⟨hf, hc, hts, hrs, hc', hrs ▸ h⟩

end Admission
