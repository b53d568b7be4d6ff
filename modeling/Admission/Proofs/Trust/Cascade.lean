import Admission.Proofs.Filing
import Admission.Trust.Graph

/-!
What a cascade does to a trust graph. A signature that the certificate taints comes out invalid and
every other one as it was (`find?_foldl_invalidatedBy`); a package that loses a valid signature
comes out invalid and every other one as it was (`find?_foldl_changedStates`). Both are said of the
lists of a cascade put over any map, so that they also serve where the map has moved on since the
cascade was worked out.
-/

namespace Admission

/-- The signature as it is once it has fallen. -/
def Signature.invalidated (s : Signature) : Signature := { s with status := .invalid }

theorem Signature.invalidated_of_status {s : Signature} (h : s.status = .invalid) :
    s.invalidated = s := by
  cases s
  cases h
  rfl

theorem Signature.valid_of_ne {s : Signature} (h : s.status ≠ .invalid) : s.status = .valid := by
  cases hs : s.status with
  | valid => rfl
  | invalid => exact absurd hs h

theorem SigningStatus.ofSignatures_eq_invalid_iff {statuses : List SignatureStatus} :
    SigningStatus.ofSignatures statuses = .invalid ↔ .invalid ∈ statuses := by
  rw [SigningStatus.ofSignatures]
  split
  · rename_i h
    simpa using h
  · rename_i h
    have h' : SignatureStatus.invalid ∉ statuses := by simpa using h
    split <;> simp [h']

namespace TrustGraph

/-- Every entry of the graph stands under its own key. -/
structure Filed (g : TrustGraph) : Prop where
  signatures : g.signatures.Filed (·.key)
  timestamps : g.timestamps.Filed (·.key)
  signingStates : g.signingStates.Filed (·.packageKey)

theorem mem_addKey {key k : Int64} {keys : List Int64} :
    k ∈ addKey key keys ↔ k = key ∨ k ∈ keys := by
  induction keys with
  | nil => simp [addKey]
  | cons a rest ih =>
    rw [addKey]
    split
    · rw [List.mem_cons]
    · rename_i he
      rw [Std.LawfulEqCmp.compare_eq_iff_eq.1 he, List.mem_cons]
      exact ⟨.inr, fun h => h.elim .inl id⟩
    · rw [List.mem_cons, List.mem_cons, ih]
      exact or_left_comm

theorem mem_ascending {k : Int64} {keys : List Int64} : k ∈ ascending keys ↔ k ∈ keys := by
  rw [ascending]
  induction keys with
  | nil => rfl
  | cons a rest ih => rw [List.foldr_cons, mem_addKey, ih, List.mem_cons]

variable {g : TrustGraph} {c : CertificateKey} {rule : CascadeRule}

/-! ### Which signatures fall -/

theorem mem_timestampsFor {k : SignatureKey} {t : TrustedTimestamp} :
    t ∈ g.timestampsFor k ↔ t ∈ g.timestamps.values ∧ t.signatureKey = k := by
  rw [timestampsFor, List.mem_filter, beq_iff_eq]

theorem isTainted_unconditional_iff {s : Signature} :
    g.isTainted s c .unconditional = true ↔ s.certificateKey = c ∨
      ∃ t ∈ g.timestamps.values, t.signatureKey = s.key ∧ t.certificateKey = c := by
  simp [isTainted, mem_timestampsFor, and_assoc]

theorem isTainted_revokedAt_iff {s : Signature} {time : Instant} :
    g.isTainted s c (.revokedAt time) = true ↔
      ∃ t ∈ g.timestamps.values, t.signatureKey = s.key ∧ time.before t.value = true ∧
        (s.certificateKey = c ∨ t.certificateKey = c) := by
  simp only [isTainted, List.any_eq_true, mem_timestampsFor, Bool.and_eq_true, Bool.or_eq_true,
    beq_iff_eq]
  constructor
  · rintro ⟨t, ⟨ht, hk⟩, htie, hafter⟩
    exact ⟨t, ht, hk, hafter, htie⟩
  · rintro ⟨t, ht, hk, hafter, htie⟩
    exact ⟨t, ⟨ht, hk⟩, htie, hafter⟩

/-- What taints a signature is in its certificate and in the timestamps on it, not in its status or
    in other signatures. -/
theorem isTainted_congr {g' : TrustGraph} {s s' : Signature} (hk : s'.key = s.key)
    (hc : s'.certificateKey = s.certificateKey)
    (ht : g'.timestampsFor s.key = g.timestampsFor s.key) :
    g'.isTainted s' c rule = g.isTainted s c rule := by
  cases rule <;> simp only [isTainted, hk, hc, ht]

/-- Whether a signature is valid and falls. -/
def falls (g : TrustGraph) (c : CertificateKey) (rule : CascadeRule) (s : Signature) : Bool :=
  s.status == .valid && g.isTainted s c rule

theorem falls_iff {s : Signature} :
    g.falls c rule s = true ↔ s.status = .valid ∧ g.isTainted s c rule = true := by
  rw [falls, Bool.and_eq_true, beq_iff_eq]

theorem invalidatedBy_eq :
    g.invalidatedBy c rule = (g.signatures.values.filter (g.falls c rule)).map (·.invalidated) :=
  rfl

theorem mem_invalidatedBy {s : Signature} :
    s ∈ g.invalidatedBy c rule ↔
      ∃ s₀ ∈ g.signatures.values, g.falls c rule s₀ = true ∧ s₀.invalidated = s := by
  simp [invalidatedBy_eq, and_assoc]

/-- The signatures that fall, put over any map: where one falls it is found invalid, and elsewhere
    the map answers. -/
theorem find?_foldl_invalidatedBy (hg : g.signatures.Filed (·.key))
    (m : SortedMap SignatureKey Signature) (k : SignatureKey) :
    ((g.invalidatedBy c rule).foldl (fun m s => m.insert s.key s) m).find? k =
      (((g.signatures.find? k).filter (g.falls c rule)).map (·.invalidated)).or (m.find? k) := by
  cases hs : (g.signatures.find? k).filter (g.falls c rule) with
  | none =>
    rw [Option.map_none, Option.none_or]
    refine SortedMap.find?_foldl_insert_of_forall_ne _ m fun s hmem hk => ?_
    obtain ⟨s₀, hs₀, hf, rfl⟩ := mem_invalidatedBy.1 hmem
    obtain rfl : s₀.key = k := hk
    rw [hg.mem_values_iff.1 hs₀, Option.filter_some, if_pos hf] at hs
    cases hs
  | some s =>
    obtain ⟨hk, hf⟩ := Option.filter_eq_some_iff.1 hs
    obtain rfl : s.key = k := hg.key_eq hk
    rw [Option.map_some, Option.some_or]
    have hmem : s.invalidated ∈ g.invalidatedBy c rule :=
      mem_invalidatedBy.2 ⟨s, hg.mem_values_iff.2 hk, hf, rfl⟩
    refine SortedMap.find?_foldl_insert_of_mem (·.key) m (fun v hv w hw hvw => ?_) hmem
    obtain ⟨v₀, hv₀, -, rfl⟩ := mem_invalidatedBy.1 hv
    obtain ⟨w₀, hw₀, -, rfl⟩ := mem_invalidatedBy.1 hw
    rw [hg.eq_of_key_eq hv₀ hw₀ hvw]

/-- The same over a map whose signatures are those of the graph, some of them fallen since: there
    the tainted ones come out invalid and the others as they are. -/
theorem find?_foldl_invalidatedBy_of_fallen (hg : g.signatures.Filed (·.key))
    {m : SortedMap SignatureKey Signature} {k : SignatureKey}
    (hm : m.find? k = g.signatures.find? k ∨
      ∃ s, g.signatures.find? k = some s ∧ m.find? k = some s.invalidated) :
    ((g.invalidatedBy c rule).foldl (fun m s => m.insert s.key s) m).find? k =
      (m.find? k).map fun s => if g.isTainted s c rule = true then s.invalidated else s := by
  rw [find?_foldl_invalidatedBy hg]
  cases hs : g.signatures.find? k with
  | none =>
    rcases hm with hm | ⟨s, hs', -⟩
    · rw [hm, hs]
      rfl
    · rw [hs] at hs'
      cases hs'
  | some s =>
    have hnow : m.find? k = some s ∨ m.find? k = some s.invalidated := by
      rcases hm with hm | ⟨s', hs', hm⟩
      · exact .inl (hm.trans hs)
      · exact .inr (Option.some.inj (hs'.symm.trans hs) ▸ hm)
    have hsame : g.isTainted s.invalidated c rule = g.isTainted s c rule :=
      isTainted_congr rfl rfl rfl
    by_cases ht : g.isTainted s c rule = true
    · by_cases hi : s.status = .invalid
      · have hinv := s.invalidated_of_status hi
        rw [hinv, or_self] at hnow
        simp [hnow, Option.filter_some, falls, hi, hinv]
      · have hf := falls_iff.2 ⟨Signature.valid_of_ne hi, ht⟩
        rcases hnow with hk | hk <;> simp [hk, Option.filter_some, hf, ht, Signature.invalidated]
    · rcases hnow with hk | hk <;> simp [hk, Option.filter_some, falls, ht, hsame]

/-! ### Which signing states change -/

/-- The packages that lose a valid signature. -/
def hitPackages (g : TrustGraph) (c : CertificateKey) (rule : CascadeRule) : List PackageKey :=
  (g.invalidatedBy c rule).map (·.packageKey)

theorem mem_hitPackages {p : PackageKey} :
    p ∈ g.hitPackages c rule ↔
      ∃ s ∈ g.signatures.values, g.falls c rule s = true ∧ s.packageKey = p := by
  simp [hitPackages, invalidatedBy_eq, Signature.invalidated, and_assoc]

/-- The signing states that come out different from what is recorded once these signatures are
    invalid. -/
def changedStates (g : TrustGraph) (invalidated : List Signature) : List SigningState :=
  (ascending (invalidated.map (·.packageKey))).filterMap fun p =>
    let status := g.signingStatusWithout (invalidated.map (·.key)) p
    if (g.signingStates.find? p).map (·.signingStatus) == some status then none
    else some ⟨p, status⟩

theorem cascade_eq (g : TrustGraph) (c : CertificateKey) (rule : CascadeRule) :
    g.cascade c rule = ⟨g.invalidatedBy c rule, g.changedStates (g.invalidatedBy c rule)⟩ := rfl

/-- A package that loses a signature can only come out invalid. -/
theorem signingStatusWithout_of_hit {p : PackageKey} (hp : p ∈ g.hitPackages c rule) :
    g.signingStatusWithout ((g.invalidatedBy c rule).map (·.key)) p = .invalid := by
  obtain ⟨s, hs, hf, rfl⟩ := mem_hitPackages.1 hp
  rw [signingStatusWithout, SigningStatus.ofSignatures_eq_invalid_iff, List.mem_map]
  refine ⟨s, List.mem_filter.2 ⟨hs, beq_self_eq_true _⟩, if_pos ?_⟩
  rw [List.contains_iff_mem]
  exact List.mem_map.2 ⟨s.invalidated, mem_invalidatedBy.2 ⟨s, hs, hf, rfl⟩, rfl⟩

theorem mem_changedStates {st : SigningState} :
    st ∈ g.changedStates (g.invalidatedBy c rule) ↔
      st.packageKey ∈ g.hitPackages c rule ∧ st.signingStatus = .invalid ∧
        (g.signingStates.find? st.packageKey).map (·.signingStatus) ≠ some .invalid := by
  rw [changedStates, List.mem_filterMap]
  constructor
  · rintro ⟨p, hp, hst⟩
    rw [mem_ascending] at hp
    rw [signingStatusWithout_of_hit hp] at hst
    dsimp only at hst
    split at hst
    · cases hst
    · rename_i hne
      cases hst
      exact ⟨hp, rfl, by simpa using hne⟩
  · rintro ⟨hp, hi, hne⟩
    refine ⟨st.packageKey, mem_ascending.2 hp, ?_⟩
    rw [signingStatusWithout_of_hit hp]
    dsimp only
    rw [if_neg (by simpa using hne), ← hi]

/-- The signing states that change, put over any map in which the states already invalid in the
    graph are so too: a package that loses a signature is found invalid, and elsewhere the map
    answers. -/
theorem find?_foldl_changedStates (hg : g.signingStates.Filed (·.packageKey))
    (m : SortedMap PackageKey SigningState)
    (hm : ∀ p ∈ g.hitPackages c rule, g.signingStates.find? p = some ⟨p, .invalid⟩ →
      m.find? p = some ⟨p, .invalid⟩) (p : PackageKey) :
    ((g.changedStates (g.invalidatedBy c rule)).foldl
        (fun m s => m.insert s.packageKey s) m).find? p =
      if p ∈ g.hitPackages c rule then some ⟨p, .invalid⟩ else m.find? p := by
  by_cases hch : ⟨p, .invalid⟩ ∈ g.changedStates (g.invalidatedBy c rule)
  · rw [if_pos (mem_changedStates.1 hch).1]
    refine SortedMap.find?_foldl_insert_of_mem (·.packageKey) m
      (fun v hv w hw hvw => ?_) hch
    have hvi := (mem_changedStates.1 hv).2.1
    have hwi := (mem_changedStates.1 hw).2.1
    cases v
    cases w
    simp_all
  · rw [SortedMap.find?_foldl_insert_of_forall_ne]
    · split
      · rename_i hp
        refine hm p hp ?_
        have hst : (g.signingStates.find? p).map (·.signingStatus) = some .invalid := by
          refine Decidable.byContradiction fun hne => hch ?_
          exact mem_changedStates.2 ⟨hp, rfl, hne⟩
        obtain ⟨st, hst, hi⟩ := Option.map_eq_some_iff.1 hst
        have hk : st.packageKey = p := hg.key_eq hst
        rw [hst, ← hi, ← hk]
      · rfl
    · rintro st hst rfl
      obtain ⟨_, hi, _⟩ := mem_changedStates.1 hst
      exact hch (hi ▸ hst)

end TrustGraph

end Admission
