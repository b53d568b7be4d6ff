import Mathlib.Data.List.Sort
import Admission.Proofs.Trust.Cascade

/-!
What makes a cascade grow. A cascade is told by the signatures that its certificate taints: where
more of them are tainted, more of them fall and more signing states change, with those of the
smaller cascade among them in the same order (`cascade_within`). A revocation taints the less the
later it is, and never as much as a certificate that is invalid taints; a timestamp that comes in
taints only more. So cascades are monotone in all three (`cascade_grows`).
-/

namespace Admission

/-- One cascade is a part of another: the same but for what is left out. -/
structure Cascade.Within (a b : Cascade) : Prop where
  invalidated : a.invalidated.Sublist b.invalidated
  signingStates : a.signingStates.Sublist b.signingStates

namespace Instant

variable {a b c : Instant}

theorem before_iff :
    a.before b = true ↔ a.second < b.second ∨ a.second = b.second ∧ a.nano < b.nano := by
  simp [before]

/-- What is later than an instant is later than any that comes no later. -/
theorem before_of_not_before (h : b.before a = false) (hbc : b.before c = true) :
    a.before c = true := by
  rw [Bool.eq_false_iff, ne_eq, before_iff] at h
  rw [before_iff] at hbc ⊢
  omega

end Instant

namespace TrustGraph

/-! ### Keys in ascending order -/

theorem pairwise_addKey {key : Int64} {keys : List Int64} (h : keys.Pairwise (· < ·)) :
    (addKey key keys).Pairwise (· < ·) := by
  induction keys with
  | nil => exact List.pairwise_singleton _ _
  | cons k rest ih =>
    obtain ⟨hk, hrest⟩ := List.pairwise_cons.1 h
    rw [addKey]
    split
    · rename_i hlt
      have hkey : key < k := compareOfLessAndEq_eq_lt.1 hlt
      exact h.cons (List.forall_mem_cons.2 ⟨hkey, fun a ha => Int64.lt_trans hkey (hk a ha)⟩)
    · exact h
    · rename_i hgt
      have hlt : compare k key = .lt := Std.OrientedCmp.gt_iff_lt.1 hgt
      have hkey : k < key := compareOfLessAndEq_eq_lt.1 hlt
      refine (ih hrest).cons fun a ha => ?_
      rcases mem_addKey.1 ha with rfl | ha
      · exact hkey
      · exact hk a ha

theorem pairwise_ascending (keys : List Int64) : (ascending keys).Pairwise (· < ·) := by
  rw [ascending]
  induction keys with
  | nil => exact .nil
  | cons k keys ih => exact pairwise_addKey ih

/-- More keys in ascending order have fewer ones among them in the same order. -/
theorem ascending_sublist {keys keys' : List Int64} (h : ∀ k ∈ keys, k ∈ keys') :
    (ascending keys).Sublist (ascending keys') := by
  have : Std.Irrefl fun a b : Int64 => a < b := ⟨fun _ => Int64.lt_irrefl⟩
  have : Std.Antisymm fun a b : Int64 => a < b :=
    ⟨fun a b hab hba => absurd (Int64.lt_trans hab hba) Int64.lt_irrefl⟩
  have hsub : ascending keys ⊆ ascending keys' :=
    fun k hk => mem_ascending.2 (h k (mem_ascending.1 hk))
  exact List.sublist_of_subperm_of_pairwise
    (List.subperm_of_subset (pairwise_ascending keys).nodup hsub)
    (pairwise_ascending keys) (pairwise_ascending keys')

/-! ### Cascades by what is tainted -/

variable {g g' : TrustGraph} {c c' : CertificateKey} {rule rule' : CascadeRule}

/-- The signing state of a package that comes out invalid, unless it is recorded so already. -/
def newlyInvalid? (g : TrustGraph) (p : PackageKey) : Option SigningState :=
  if (g.signingStates.find? p).map (·.signingStatus) == some .invalid then none
  else some ⟨p, .invalid⟩

/-- The signing states that change are told by the packages that lose a signature. -/
theorem changedStates_eq :
    g.changedStates (g.invalidatedBy c rule) =
      (ascending (g.hitPackages c rule)).filterMap g.newlyInvalid? := by
  refine List.filterMap_congr fun p hp => ?_
  rw [signingStatusWithout_of_hit (mem_ascending.1 hp)]
  rfl

/-- Where all that is tainted is tainted in another graph of the same signatures and states too,
    the cascade is a part of the other one. -/
theorem cascade_within (hsig : g'.signatures = g.signatures)
    (hst : g'.signingStates = g.signingStates)
    (h : ∀ s, g.isTainted s c rule = true → g'.isTainted s c' rule' = true) :
    (g.cascade c rule).Within (g'.cascade c' rule') := by
  have hfalls (s : Signature) (hs : g.falls c rule s = true) : g'.falls c' rule' s = true := by
    obtain ⟨hv, ht⟩ := falls_iff.1 hs
    exact falls_iff.2 ⟨hv, h s ht⟩
  have hinv : (g.invalidatedBy c rule).Sublist (g'.invalidatedBy c' rule') := by
    rw [invalidatedBy_eq, invalidatedBy_eq, hsig]
    exact (List.monotone_filter_right _ hfalls).map _
  refine ⟨hinv, ?_⟩
  have hhit : (ascending (g.hitPackages c rule)).Sublist (ascending (g'.hitPackages c' rule')) :=
    ascending_sublist (hinv.map _).subset
  have hnew : g'.newlyInvalid? = g.newlyInvalid? := by
    funext p
    rw [newlyInvalid?, newlyInvalid?, hst]
  rw [cascade_eq, cascade_eq, changedStates_eq, changedStates_eq, hnew]
  exact hhit.filterMap _

/-! ### More that is tainted -/

/-- A revocation taints all that a later one taints. -/
theorem isTainted_revokedAt_mono {t₁ t₂ : Instant} (ht : t₂.before t₁ = false) {s : Signature}
    (h : g.isTainted s c (.revokedAt t₂) = true) : g.isTainted s c (.revokedAt t₁) = true := by
  obtain ⟨t, hmem, hkey, hafter, htie⟩ := isTainted_revokedAt_iff.1 h
  exact isTainted_revokedAt_iff.2
    ⟨t, hmem, hkey, Instant.before_of_not_before ht hafter, htie⟩

/-- What falls with a revoked certificate is tied to it, so it falls with an invalid one. -/
theorem isTainted_unconditional_of_revokedAt {time : Instant} {s : Signature}
    (h : g.isTainted s c (.revokedAt time) = true) : g.isTainted s c .unconditional = true := by
  obtain ⟨t, hmem, hkey, -, htie⟩ := isTainted_revokedAt_iff.1 h
  exact isTainted_unconditional_iff.2 (htie.imp id fun hc => ⟨t, hmem, hkey, hc⟩)

/-- The graph with a timestamp filed under a key, as `withTimestamp` files it under its own. -/
def stamp (g : TrustGraph) (k : TimestampKey) (t : TrustedTimestamp) : TrustGraph :=
  { g with timestamps := g.timestamps.insert k t }

/-- A timestamp under a new key takes the place of none. -/
theorem mem_timestamps_stamp {k : TimestampKey} (hk : g.timestamps.contains k = false)
    (t : TrustedTimestamp) {u : TrustedTimestamp} (hu : u ∈ g.timestamps.values) :
    u ∈ (g.stamp k t).timestamps.values := by
  obtain ⟨k', hk'⟩ := SortedMap.mem_values_iff.1 hu
  have hne : k' ≠ k := by
    rintro rfl
    rw [SortedMap.contains_iff.2 ⟨u, hk'⟩] at hk
    cases hk
  exact SortedMap.mem_values_iff.2 ⟨k', (SortedMap.find?_insert_of_ne _ _ hne).trans hk'⟩

theorem isTainted_stamp {k : TimestampKey} (hk : g.timestamps.contains k = false)
    (t : TrustedTimestamp) {s : Signature} (h : g.isTainted s c rule = true) :
    (g.stamp k t).isTainted s c rule = true := by
  cases rule with
  | unconditional =>
    rw [isTainted_unconditional_iff] at h ⊢
    exact h.imp id fun ⟨u, hu, htie⟩ => ⟨u, mem_timestamps_stamp hk t hu, htie⟩
  | revokedAt time =>
    rw [isTainted_revokedAt_iff] at h ⊢
    obtain ⟨u, hu, htie⟩ := h
    exact ⟨u, mem_timestamps_stamp hk t hu, htie⟩

/-- On every graph the cascade of a later revocation is a part of that of an earlier one, and this a
    part of the cascade that follows when the certificate is invalid; and no cascade loses anything
    by a timestamp that comes in under a new key. -/
theorem cascade_grows (g : TrustGraph) (c : CertificateKey) :
    (∀ t₁ t₂ : Instant, t₂.before t₁ = false →
      (g.cascade c (.revokedAt t₂)).Within (g.cascade c (.revokedAt t₁))) ∧
    (∀ time, (g.cascade c (.revokedAt time)).Within (g.cascade c .unconditional)) ∧
    ∀ rule k t, g.timestamps.contains k = false →
      (g.cascade c rule).Within ((g.stamp k t).cascade c rule) := by
  refine ⟨fun t₁ t₂ ht => ?_, fun time => ?_, fun rule k t hk => ?_⟩
  · exact cascade_within rfl rfl fun _ => isTainted_revokedAt_mono ht
  · exact cascade_within rfl rfl fun _ => isTainted_unconditional_of_revokedAt
  · exact cascade_within rfl rfl fun _ => isTainted_stamp hk t

/-- The signatures of one certificate on three packages: one stamped after an hour, one after a
    minute, and one not at all. -/
def layered : TrustGraph where
  signatures := .ofValues (·.key)
    [⟨10, 100, 1, .valid⟩, ⟨11, 101, 1, .valid⟩, ⟨12, 102, 1, .valid⟩]
  timestamps := .ofValues (·.key)
    [⟨20, 10, 2, (Instant.ofParts? 3600 0).getD .epoch⟩,
      ⟨21, 11, 2, (Instant.ofParts? 60 0).getD .epoch⟩]
  signingStates := .ofValues (·.packageKey) [⟨100, .valid⟩, ⟨102, .valid⟩]

theorem cascade_grows_layered :
    let minute : Instant := (Instant.ofParts? 60 0).getD .epoch
    let late : TrustedTimestamp := ⟨22, 12, 2, (Instant.ofParts? 3600 0).getD .epoch⟩
    minute.before .epoch = false ∧ layered.timestamps.contains 22 = false ∧
      (layered.cascade 1 (.revokedAt minute)).invalidated.map (·.key) = [10] ∧
      (layered.cascade 1 (.revokedAt minute)).Within (layered.cascade 1 (.revokedAt .epoch)) ∧
      (layered.cascade 1 (.revokedAt .epoch)).invalidated.map (·.key) = [10, 11] ∧
      (layered.cascade 1 (.revokedAt .epoch)).Within (layered.cascade 1 .unconditional) ∧
      (layered.cascade 1 .unconditional).invalidated.map (·.key) = [10, 11, 12] ∧
      (layered.cascade 1 (.revokedAt minute)).Within
        ((layered.withTimestamp late).cascade 1 (.revokedAt minute)) ∧
      ((layered.withTimestamp late).cascade 1 (.revokedAt minute)).invalidated.map (·.key) =
        [10, 12] := by
  intro minute late
  have hle : minute.before .epoch = false := by decide
  have hnew : layered.timestamps.contains 22 = false := by decide
  obtain ⟨hlater, hrevoked, hstamp⟩ := cascade_grows layered 1
  exact ⟨hle, hnew, by decide, hlater .epoch minute hle, by decide, hrevoked .epoch, by decide,
    hstamp (.revokedAt minute) 22 late hnew, by decide⟩

end TrustGraph

end Admission
