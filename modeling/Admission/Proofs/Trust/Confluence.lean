import Admission.Proofs.Trust.Loading

/-!
Cascades one after another, each worked out on the graph that the ones before it have left. A
cascade touches neither timestamps nor the ties of signatures, so a certificate taints on every
later graph what it taints on the first (`Downfall.taintedBy_iff`), and each cascade only adds to
what has fallen before (`Downfall.after`, `Downfall.trans`). A whole run therefore comes to what its
causes do together (`downfall_afterAll`), whatever their order and however often one of them comes
(`cascades_form_set`).
-/

namespace Admission

/-- A cause of a cascade: the certificate that loses trust, and the rule by which signatures fall
    with it. -/
structure Distrust where
  certificate : CertificateKey
  rule : CascadeRule
deriving DecidableEq

namespace TrustGraph

/-- The graph after the cascade of one cause. -/
def after (g : TrustGraph) (d : Distrust) : TrustGraph := g.put (g.cascade d.certificate d.rule)

/-- The graph after the cascades of several causes, one after another. -/
def afterAll (g : TrustGraph) (ds : List Distrust) : TrustGraph := ds.foldl after g

/-- Some of the causes taints the signature. -/
def TaintedBy (g : TrustGraph) (ds : List Distrust) (s : Signature) : Prop :=
  ∃ d ∈ ds, g.isTainted s d.certificate d.rule = true

instance (g : TrustGraph) (ds : List Distrust) (s : Signature) : Decidable (g.TaintedBy ds s) :=
  inferInstanceAs (Decidable (∃ d ∈ ds, _))

/-- The causes take a valid signature from the package. -/
def Hits (g : TrustGraph) (ds : List Distrust) (p : PackageKey) : Prop :=
  ∃ s ∈ g.signatures.values, s.packageKey = p ∧ s.status = .valid ∧ g.TaintedBy ds s

instance (g : TrustGraph) (ds : List Distrust) (p : PackageKey) : Decidable (g.Hits ds p) :=
  inferInstanceAs (Decidable (∃ s ∈ g.signatures.values, _))

variable {g g' : TrustGraph} {d : Distrust} {ds es : List Distrust} {s : Signature}

/-! ### Putting a cascade back -/

section Put

theorem foldl_withSignature (l : List Signature) (g : TrustGraph) :
    (l.foldl withSignature g).signatures = l.foldl (fun m s => m.insert s.key s) g.signatures ∧
      (l.foldl withSignature g).timestamps = g.timestamps ∧
        (l.foldl withSignature g).signingStates = g.signingStates := by
  induction l generalizing g with
  | nil => exact ⟨rfl, rfl, rfl⟩
  | cons s l ih => exact ih (g.withSignature s)

theorem foldl_withSigningState (l : List SigningState) (g : TrustGraph) :
    (l.foldl withSigningState g).signatures = g.signatures ∧
      (l.foldl withSigningState g).timestamps = g.timestamps ∧
        (l.foldl withSigningState g).signingStates =
          l.foldl (fun m s => m.insert s.packageKey s) g.signingStates := by
  induction l generalizing g with
  | nil => exact ⟨rfl, rfl, rfl⟩
  | cons s l ih => exact ih (g.withSigningState s)

variable (g) (c : Cascade)

theorem signatures_put :
    (g.put c).signatures = c.invalidated.foldl (fun m s => m.insert s.key s) g.signatures := by
  rw [put, (foldl_withSigningState ..).1, (foldl_withSignature ..).1]

theorem timestamps_put : (g.put c).timestamps = g.timestamps := by
  rw [put, (foldl_withSigningState ..).2.1, (foldl_withSignature ..).2.1]

theorem signingStates_put :
    (g.put c).signingStates =
      c.signingStates.foldl (fun m s => m.insert s.packageKey s) g.signingStates := by
  rw [put, (foldl_withSigningState ..).2.2, (foldl_withSignature ..).2.2]

end Put

theorem Filed.put (hg : g.Filed) (c : Cascade) : (g.put c).Filed where
  signatures := g.signatures_put c ▸ .foldl_insert c.invalidated hg.signatures
  timestamps := g.timestamps_put c ▸ hg.timestamps
  signingStates := g.signingStates_put c ▸ .foldl_insert c.signingStates hg.signingStates

/-! ### One cascade -/

theorem Filed.after (hg : g.Filed) (d : Distrust) : (g.after d).Filed := hg.put _

theorem find?_signatures_after (hg : g.Filed) (d : Distrust) (k : SignatureKey) :
    (g.after d).signatures.find? k = (g.signatures.find? k).map fun s =>
      if g.isTainted s d.certificate d.rule = true then s.invalidated else s := by
  rw [TrustGraph.after, signatures_put]
  exact find?_foldl_invalidatedBy_of_fallen hg.signatures (.inl rfl)

theorem find?_signingStates_after (hg : g.Filed) (d : Distrust) (p : PackageKey) :
    (g.after d).signingStates.find? p =
      if p ∈ g.hitPackages d.certificate d.rule then some ⟨p, .invalid⟩
      else g.signingStates.find? p := by
  rw [TrustGraph.after, signingStates_put, cascade_eq]
  exact find?_foldl_changedStates hg.signingStates _ (fun _ _ h => h) p

/-! ### Cascades together -/

/-- What becomes of a graph by some causes together: the signatures that they taint have fallen, and
    the packages that lost a valid one are recorded as invalid. -/
structure Downfall (g : TrustGraph) (ds : List Distrust) (g' : TrustGraph) : Prop where
  signatures (k : SignatureKey) : g'.signatures.find? k =
    (g.signatures.find? k).map fun s => if g.TaintedBy ds s then s.invalidated else s
  timestamps : g'.timestamps = g.timestamps
  signingStates (p : PackageKey) : g'.signingStates.find? p =
    if g.Hits ds p then some ⟨p, .invalid⟩ else g.signingStates.find? p

theorem taintedBy_append :
    g.TaintedBy (ds ++ es) s ↔ g.TaintedBy ds s ∨ g.TaintedBy es s := by
  simp only [TaintedBy, List.mem_append, or_and_right, exists_or]

theorem Downfall.nil (g : TrustGraph) : g.Downfall [] g where
  signatures k := by simp [TaintedBy]
  timestamps := rfl
  signingStates p := by simp [Hits, TaintedBy]

theorem Downfall.after (hg : g.Filed) (d : Distrust) : g.Downfall [d] (g.after d) where
  signatures k := by simp [find?_signatures_after hg, TaintedBy]
  timestamps := timestamps_put g _
  signingStates p := by
    have hhits : p ∈ g.hitPackages d.certificate d.rule ↔ g.Hits [d] p := by
      simp [mem_hitPackages, falls_iff, Hits, TaintedBy, and_comm, and_left_comm]
    simp only [find?_signingStates_after hg, hhits]

theorem Downfall.taintedBy_iff (h : g.Downfall ds g') {s' : Signature} (hk : s'.key = s.key)
    (hc : s'.certificateKey = s.certificateKey) : g'.TaintedBy es s' ↔ g.TaintedBy es s := by
  have hsame (d : Distrust) :
      g'.isTainted s' d.certificate d.rule = g.isTainted s d.certificate d.rule := by
    refine isTainted_congr hk hc ?_
    rw [timestampsFor, timestampsFor, h.timestamps]
  simp only [TaintedBy, hsame]

/-- A package hit by either of two runs of causes is hit by one of them first: by the earlier ones,
    or by the later ones on what these have left. -/
theorem Downfall.hits_append_iff (h : g.Downfall ds g') (hg : g.Filed) (hg' : g'.Filed)
    {p : PackageKey} : g.Hits (ds ++ es) p ↔ g.Hits ds p ∨ g'.Hits es p := by
  constructor
  · rintro ⟨s, hs, hp, hv, ht⟩
    by_cases hd : g.TaintedBy ds s
    · exact .inl ⟨s, hs, hp, hv, hd⟩
    · refine .inr ⟨s, ?_, hp, hv, (h.taintedBy_iff rfl rfl).2 ?_⟩
      · rw [hg'.signatures.mem_values_iff, h.signatures, hg.signatures.mem_values_iff.1 hs,
          Option.map_some, if_neg hd]
      · exact (taintedBy_append.1 ht).resolve_left hd
  · rintro (⟨s, hs, hp, hv, ht⟩ | ⟨s', hs', hp, hv, ht⟩)
    · exact ⟨s, hs, hp, hv, taintedBy_append.2 (.inl ht)⟩
    · rw [hg'.signatures.mem_values_iff, h.signatures] at hs'
      obtain ⟨s, hs, hs'⟩ := Option.map_eq_some_iff.1 hs'
      split at hs'
      · rw [← hs'] at hv
        cases hv
      · obtain rfl := hs'
        exact ⟨s, hg.signatures.mem_values_iff.2 hs, hp, hv,
          taintedBy_append.2 (.inr ((h.taintedBy_iff rfl rfl).1 ht))⟩

theorem Downfall.trans {g'' : TrustGraph} (h : g.Downfall ds g') (h' : g'.Downfall es g'')
    (hg : g.Filed) (hg' : g'.Filed) : g.Downfall (ds ++ es) g'' where
  signatures k := by
    rw [h'.signatures, h.signatures, Option.map_map]
    congr 1
    funext s
    have hlater : g'.TaintedBy es s ↔ g.TaintedBy es s := h.taintedBy_iff rfl rfl
    by_cases hd : g.TaintedBy ds s <;> by_cases he : g.TaintedBy es s <;>
      simp [taintedBy_append, hd, he, hlater, Signature.invalidated]
  timestamps := h'.timestamps.trans h.timestamps
  signingStates p := by
    rw [h'.signingStates, h.signingStates]
    have happ : g.Hits (ds ++ es) p ↔ _ := h.hits_append_iff hg hg'
    by_cases hd : g.Hits ds p <;> by_cases he : g'.Hits es p <;> simp [happ, hd, he]

/-- Only what the causes are matters. -/
theorem Downfall.congr (h : g.Downfall ds g') (hds : ∀ d, d ∈ es ↔ d ∈ ds) : g.Downfall es g' := by
  have ht (s : Signature) : g.TaintedBy es s ↔ g.TaintedBy ds s := by simp only [TaintedBy, hds]
  have hh (p : PackageKey) : g.Hits es p ↔ g.Hits ds p := by simp only [Hits, ht]
  exact ⟨by simpa only [ht] using h.signatures, h.timestamps,
    by simpa only [hh] using h.signingStates⟩

theorem Downfall.eq {g'' : TrustGraph} (h : g.Downfall ds g') (h' : g.Downfall ds g'') :
    g' = g'' := by
  have hs : g'.signatures = g''.signatures :=
    SortedMap.ext_find? fun k => (h.signatures k).trans (h'.signatures k).symm
  have hst : g'.signingStates = g''.signingStates :=
    SortedMap.ext_find? fun p => (h.signingStates p).trans (h'.signingStates p).symm
  cases g'
  cases g''
  simp only [mk.injEq]
  exact ⟨hs, h.timestamps.trans h'.timestamps.symm, hst⟩

/-- A run of cascades comes to what its causes do together. -/
theorem downfall_afterAll (hg : g.Filed) (ds : List Distrust) : g.Downfall ds (g.afterAll ds) := by
  induction ds generalizing g with
  | nil => exact .nil g
  | cons d ds ih => exact (Downfall.after hg d).trans (ih (hg.after d)) hg (hg.after d)

/-- A valid signature of the package in the one graph is invalid in the other. -/
def Loses (g g' : TrustGraph) (p : PackageKey) : Prop :=
  ∃ k s s', g.signatures.find? k = some s ∧ s.packageKey = p ∧ s.status = .valid ∧
    g'.signatures.find? k = some s' ∧ s'.status = .invalid

theorem Downfall.status_iff (h : g.Downfall ds g') {k : SignatureKey}
    (hs : g.signatures.find? k = some s) :
    ∃ s', g'.signatures.find? k = some s' ∧ s'.key = s.key ∧ s'.packageKey = s.packageKey ∧
      s'.certificateKey = s.certificateKey ∧
        (s'.status = .invalid ↔ s.status = .invalid ∨ g.TaintedBy ds s) := by
  have hs' := h.signatures k
  rw [hs, Option.map_some] at hs'
  refine ⟨_, hs', ?_⟩
  split
  · rename_i ht
    exact ⟨rfl, rfl, rfl, iff_of_true rfl (.inr ht)⟩
  · rename_i ht
    exact ⟨rfl, rfl, rfl, (or_iff_left ht).symm⟩

/-- The packages hit are those that lose a signature. -/
theorem Downfall.loses_iff (h : g.Downfall ds g') (hg : g.Filed) {p : PackageKey} :
    g.Loses g' p ↔ g.Hits ds p := by
  constructor
  · rintro ⟨k, s, s', hs, hp, hv, hs', hi⟩
    obtain ⟨s'', hs'', -, -, -, hiff⟩ := h.status_iff hs
    obtain rfl := Option.some.inj (hs'.symm.trans hs'')
    obtain rfl : s.key = k := hg.signatures.key_eq hs
    refine ⟨s, hg.signatures.mem_values_iff.2 hs, hp, hv, (hiff.1 hi).resolve_left fun hi => ?_⟩
    rw [hv] at hi
    cases hi
  · rintro ⟨s, hs, hp, hv, ht⟩
    have hs := hg.signatures.mem_values_iff.1 hs
    obtain ⟨s', hs', -, -, -, hiff⟩ := h.status_iff hs
    exact ⟨s.key, s, s', hs, hp, hv, hs', hiff.2 (.inr ht)⟩

/-- Cascades one after another come to the same graph in any order and however often one of them
    comes. In it a signature is invalid if it was before or some cause taints it, a package that
    lost a valid signature is recorded as invalid, and all else is as it was. -/
theorem cascades_form_set (hg : g.Filed) (ds : List Distrust) :
    (∀ es : List Distrust, (∀ d, d ∈ es ↔ d ∈ ds) → g.afterAll es = g.afterAll ds) ∧
      (∀ k s, g.signatures.find? k = some s → ∃ s', (g.afterAll ds).signatures.find? k = some s' ∧
        s'.key = s.key ∧ s'.packageKey = s.packageKey ∧ s'.certificateKey = s.certificateKey ∧
          (s'.status = .invalid ↔ s.status = .invalid ∨
            ∃ d ∈ ds, g.isTainted s d.certificate d.rule = true)) ∧
      (∀ k, g.signatures.find? k = none → (g.afterAll ds).signatures.find? k = none) ∧
      (g.afterAll ds).timestamps = g.timestamps ∧
      ∀ p, (g.Loses (g.afterAll ds) p →
          (g.afterAll ds).signingStates.find? p = some ⟨p, .invalid⟩) ∧
        (¬g.Loses (g.afterAll ds) p →
          (g.afterAll ds).signingStates.find? p = g.signingStates.find? p) := by
  have hfall := downfall_afterAll hg ds
  refine ⟨fun es hes => ?_, fun k s hs => hfall.status_iff hs, fun k hk => ?_, hfall.timestamps,
    fun p => ?_⟩
  · exact (downfall_afterAll hg es).eq (hfall.congr hes)
  · rw [hfall.signatures, hk, Option.map_none]
  · rw [hfall.loses_iff hg, hfall.signingStates]
    exact ⟨fun h => if_pos h, fun h => if_neg h⟩

/-! ### Two certificates with a package in common -/

/-- The third certificate becomes invalid and the first is revoked. -/
def bothDistrusted : List Distrust := [⟨3, .unconditional⟩, ⟨1, .revokedAt .epoch⟩]

theorem cascades_form_set_scattered :
    let g := Registry.scattered.loadTrustGraph 1
    let again := bothDistrusted.reverse ++ bothDistrusted
    g.Filed ∧ (∀ d, d ∈ again ↔ d ∈ bothDistrusted) ∧
      g.afterAll [⟨1, .revokedAt .epoch⟩] ≠ g.afterAll [⟨3, .unconditional⟩] ∧
        g.afterAll again = g.afterAll bothDistrusted ∧
          g.signatures.find? 13 = some ⟨13, 101, 3, .valid⟩ ∧
            (g.afterAll bothDistrusted).signatures.find? 13 = some ⟨13, 101, 3, .invalid⟩ ∧
              g.Loses (g.afterAll bothDistrusted) 101 ∧
                (g.afterAll bothDistrusted).signingStates.find? 101 = some ⟨101, .invalid⟩ := by
  intro g again
  have hf : g.Filed := Registry.filed_loadTrustGraph _ _
  have hmem : ∀ d, d ∈ again ↔ d ∈ bothDistrusted := by simp [again]
  obtain ⟨hsame, hsignatures, -, -, hstates⟩ := cascades_form_set hf bothDistrusted
  have h13 : g.signatures.find? 13 = some ⟨13, 101, 3, .valid⟩ := by decide +kernel
  obtain ⟨s', hs', hkey, hpackage, hcertificate, hstatus⟩ := hsignatures 13 _ h13
  have hi : s'.status = .invalid := hstatus.2 (.inr ⟨⟨3, .unconditional⟩, by decide, by decide⟩)
  have hloses : g.Loses (g.afterAll bothDistrusted) 101 := ⟨13, _, s', h13, rfl, rfl, hs', hi⟩
  refine ⟨hf, hmem, by decide +kernel, hsame again hmem, h13, ?_, hloses, (hstates 101).1 hloses⟩
  cases s'
  simp_all

end TrustGraph

end Admission
