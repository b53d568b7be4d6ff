import Mathlib.Data.List.Basic
import Admission.Proofs.Registry.Filed
import Admission.Proofs.Trust.Cascade

/-!
The part of the trust graph that is loaded for a certificate. It holds every package the certificate
is tied to, with all that bears on its signatures: what the certificate taints lies in that part
(`tied_of_isTainted`), and there the part agrees with the whole graph (`isTainted_loadTrustGraph`,
`signingStatusWithout_loadTrustGraph`), so a cascade comes out the same on both.
-/

namespace Admission.Registry

variable {r : Registry} {c : CertificateKey} {rule : CascadeRule}

theorem Filed.fullTrustGraph (h : r.Filed) : r.fullTrustGraph.Filed :=
  ⟨h.signatures, h.timestamps, h.signingStates⟩

/-- A package is tied to the certificate by a signature made with it or stamped by it. -/
theorem mem_tiedPackages (h : r.Filed) {p : PackageKey} :
    p ∈ r.tiedPackages c ↔ ∃ s ∈ r.signatures.values, s.packageKey = p ∧
      (s.certificateKey = c ∨
        ∃ t ∈ r.timestamps.values, t.signatureKey = s.key ∧ t.certificateKey = c) := by
  simp only [tiedPackages, tiedSignatures, List.mem_map, List.mem_filterMap, List.mem_append,
    List.mem_filter, beq_iff_eq]
  constructor
  · rintro ⟨s, ⟨k, htie, hk⟩, rfl⟩
    obtain rfl : s.key = k := h.signatures.key_eq hk
    have hs : s ∈ r.signatures.values := h.signatures.mem_values_iff.2 hk
    refine ⟨s, hs, rfl, ?_⟩
    rcases htie with ⟨s', ⟨hs', hc⟩, hkey⟩ | ⟨t, ⟨ht, hc⟩, hkey⟩
    · exact .inl (h.signatures.eq_of_key_eq hs' hs hkey ▸ hc)
    · exact .inr ⟨t, ht, hkey, hc⟩
  · rintro ⟨s, hs, rfl, htie⟩
    refine ⟨s, ⟨s.key, ?_, h.signatures.mem_values_iff.1 hs⟩, rfl⟩
    rcases htie with hc | ⟨t, ht, hkey, hc⟩
    · exact .inl ⟨s, ⟨hs, hc⟩, rfl⟩
    · exact .inr ⟨t, ⟨ht, hc⟩, hkey⟩

theorem tied_of_isTainted (h : r.Filed) {s : Signature} (hs : s ∈ r.signatures.values)
    (ht : r.fullTrustGraph.isTainted s c rule = true) : s.packageKey ∈ r.tiedPackages c := by
  refine (mem_tiedPackages h).2 ⟨s, hs, rfl, ?_⟩
  cases rule with
  | unconditional => exact TrustGraph.isTainted_unconditional_iff.1 ht
  | revokedAt time =>
    obtain ⟨t, ht, hkey, -, hc⟩ := TrustGraph.isTainted_revokedAt_iff.1 ht
    exact hc.imp id fun hc => ⟨t, ht, hkey, hc⟩

/-! ### What is loaded -/

theorem filed_loadTrustGraph (r : Registry) (c : CertificateKey) : (r.loadTrustGraph c).Filed where
  signatures := SortedMap.filed_ofValues _ _
  timestamps := SortedMap.filed_ofValues _ _
  signingStates := SortedMap.filed_ofValues _ _

theorem signatures_loadTrustGraph (h : r.Filed) :
    (r.loadTrustGraph c).signatures =
      r.signatures.filter fun _ s => (r.tiedPackages c).contains s.packageKey :=
  SortedMap.ofValues_filter_values h.signatures _

theorem timestamps_loadTrustGraph (h : r.Filed) :
    (r.loadTrustGraph c).timestamps =
      r.timestamps.filter fun _ t => (r.loadTrustGraph c).signatures.contains t.signatureKey :=
  SortedMap.ofValues_filter_values h.timestamps _

theorem find?_signingStates_loadTrustGraph (h : r.Filed) {p : PackageKey}
    (hp : p ∈ r.tiedPackages c) :
    (r.loadTrustGraph c).signingStates.find? p = r.signingStates.find? p := by
  have huniq : ∀ v ∈ (r.tiedPackages c).filterMap r.signingStates.find?,
      ∀ w ∈ (r.tiedPackages c).filterMap r.signingStates.find?,
        v.packageKey = w.packageKey → v = w := by
    intro v hv w hw hk
    obtain ⟨p, -, hv⟩ := List.mem_filterMap.1 hv
    obtain ⟨q, -, hw⟩ := List.mem_filterMap.1 hw
    have hp : v.packageKey = p := h.signingStates.key_eq hv
    have hq : w.packageKey = q := h.signingStates.key_eq hw
    rw [← hp, hk, hq, hw] at hv
    exact (Option.some.inj hv).symm
  apply Option.ext
  intro st
  rw [loadTrustGraph, SortedMap.find?_ofValues_eq_some_iff huniq, List.mem_filterMap]
  constructor
  · rintro ⟨⟨q, -, hq⟩, rfl⟩
    rw [h.signingStates.key_eq hq, hq]
  · intro hst
    exact ⟨⟨p, hp, hst⟩, h.signingStates.key_eq hst⟩

theorem timestampsFor_loadTrustGraph (h : r.Filed) {s : Signature} (hs : s ∈ r.signatures.values)
    (hp : s.packageKey ∈ r.tiedPackages c) :
    (r.loadTrustGraph c).timestampsFor s.key = r.fullTrustGraph.timestampsFor s.key := by
  rw [TrustGraph.timestampsFor, timestamps_loadTrustGraph h, SortedMap.values_filter,
    List.filter_filter, TrustGraph.timestampsFor, Registry.fullTrustGraph]
  refine List.filter_congr fun t _ => ?_
  by_cases hk : t.signatureKey = s.key
  · have hfind : (r.loadTrustGraph c).signatures.find? s.key = some s := by
      rw [signatures_loadTrustGraph h, SortedMap.find?_filter, h.signatures.mem_values_iff.1 hs,
        Option.filter_some, if_pos (List.contains_iff_mem.2 hp)]
    rw [hk, beq_self_eq_true, Bool.true_and]
    exact SortedMap.contains_iff.2 ⟨s, hfind⟩
  · simp [hk]

theorem isTainted_loadTrustGraph (h : r.Filed) {s : Signature} (hs : s ∈ r.signatures.values)
    (hp : s.packageKey ∈ r.tiedPackages c) :
    (r.loadTrustGraph c).isTainted s c rule = r.fullTrustGraph.isTainted s c rule :=
  TrustGraph.isTainted_congr rfl rfl (timestampsFor_loadTrustGraph h hs hp)

theorem signingStatusWithout_loadTrustGraph (h : r.Filed) {p : PackageKey}
    (hp : p ∈ r.tiedPackages c) (keys : List SignatureKey) :
    (r.loadTrustGraph c).signingStatusWithout keys p =
      r.fullTrustGraph.signingStatusWithout keys p := by
  rw [TrustGraph.signingStatusWithout, signatures_loadTrustGraph h, SortedMap.values_filter,
    List.filter_filter, TrustGraph.signingStatusWithout, Registry.fullTrustGraph]
  congr 2
  refine List.filter_congr fun s _ => ?_
  by_cases hk : s.packageKey = p
  · rw [hk, List.contains_iff_mem.2 hp, Bool.and_true]
  · simp [hk]

/-! ### Cascades on what is loaded -/

/-- The same signatures fall in the part and in the whole. -/
theorem invalidatedBy_loadTrustGraph (h : r.Filed) :
    (r.loadTrustGraph c).invalidatedBy c rule = r.fullTrustGraph.invalidatedBy c rule := by
  rw [TrustGraph.invalidatedBy_eq, signatures_loadTrustGraph h, SortedMap.values_filter,
    List.filter_filter, TrustGraph.invalidatedBy_eq, Registry.fullTrustGraph]
  congr 1
  refine List.filter_congr fun s hs => ?_
  by_cases hp : s.packageKey ∈ r.tiedPackages c
  · rw [List.contains_iff_mem.2 hp, Bool.and_true, TrustGraph.falls, TrustGraph.falls,
      isTainted_loadTrustGraph h hs hp]
    rfl
  · have hnt : r.fullTrustGraph.isTainted s c rule = false :=
      Bool.eq_false_iff.2 fun ht => hp (tied_of_isTainted h hs ht)
    have hnp : (r.tiedPackages c).contains s.packageKey = false :=
      Bool.eq_false_iff.2 fun hc => hp (List.contains_iff_mem.1 hc)
    rw [hnp, Bool.and_false, TrustGraph.falls]
    exact (Bool.and_eq_false_imp.2 fun _ => hnt).symm

/-- The same signing states change in the part and in the whole. -/
theorem changedStates_loadTrustGraph (h : r.Filed) :
    (r.loadTrustGraph c).changedStates (r.fullTrustGraph.invalidatedBy c rule) =
      r.fullTrustGraph.changedStates (r.fullTrustGraph.invalidatedBy c rule) := by
  rw [TrustGraph.changedStates, TrustGraph.changedStates]
  refine List.filterMap_congr fun p hp => ?_
  obtain ⟨s, hs, hf, rfl⟩ := TrustGraph.mem_hitPackages.1 (TrustGraph.mem_ascending.1 hp)
  have htied := tied_of_isTainted h hs (TrustGraph.falls_iff.1 hf).2
  rw [signingStatusWithout_loadTrustGraph h htied, find?_signingStates_loadTrustGraph h htied]
  rfl

/-- The part that is loaded for a certificate is enough for every cascade of it: the same signatures
    fall and the same signing states change, in the same order as in the whole graph. -/
theorem cascade_loadTrustGraph (h : r.Filed) (c : CertificateKey) (rule : CascadeRule) :
    (r.loadTrustGraph c).cascade c rule = r.fullTrustGraph.cascade c rule := by
  rw [TrustGraph.cascade_eq, TrustGraph.cascade_eq, invalidatedBy_loadTrustGraph h,
    changedStates_loadTrustGraph h]

/-! ### A graph of which only a part is loaded -/

/-- The first certificate made one signature of package 100, stamped by another certificate, and
    stamped one of package 101, whose other signature and missing signing state come with it; it has
    nothing to do with package 102. -/
def scattered : Registry :=
  let hour : Instant := (Instant.ofParts? 3600 0).getD .epoch
  .ofSnapshot
    { Snapshot.empty with
      signatures := [⟨10, 100, 1, .valid⟩, ⟨11, 100, 2, .invalid⟩, ⟨12, 101, 2, .valid⟩,
        ⟨13, 101, 3, .valid⟩, ⟨14, 102, 2, .valid⟩]
      timestamps := [⟨20, 10, 2, hour⟩, ⟨21, 12, 1, hour⟩, ⟨22, 12, 3, .epoch⟩, ⟨23, 14, 2, hour⟩,
        ⟨24, 99, 1, hour⟩]
      signingStates := [⟨100, .valid⟩, ⟨102, .valid⟩] }

theorem cascade_loadTrustGraph_scattered :
    scattered.Filed ∧ scattered.loadTrustGraph 1 ≠ scattered.fullTrustGraph ∧
      scattered.fullTrustGraph.cascade 1 (.revokedAt .epoch) =
        ⟨[⟨10, 100, 1, .invalid⟩, ⟨12, 101, 2, .invalid⟩], [⟨100, .invalid⟩, ⟨101, .invalid⟩]⟩ ∧
        (scattered.loadTrustGraph 1).cascade 1 (.revokedAt .epoch) =
          scattered.fullTrustGraph.cascade 1 (.revokedAt .epoch) := by
  have hf : scattered.Filed := filed_ofSnapshot _
  exact ⟨hf, by decide, by decide, cascade_loadTrustGraph hf 1 (.revokedAt .epoch)⟩

end Admission.Registry
