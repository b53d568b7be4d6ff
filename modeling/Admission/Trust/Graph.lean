import Admission.Model.Signature
import Admission.SortedMap

/-!
The part of the registry that hangs together by trust: signatures, the timestamps on them, and the
signing states of their packages. A certificate that has lost trust taints signatures
('isTainted'); the cascade is the list of valid ones among them, now invalid, with the signing
states that change for it.
-/

namespace Admission

/-- Which signatures a certificate takes down when it loses trust. -/
inductive CascadeRule where
  | unconditional
  | revokedAt (time : Instant)
deriving DecidableEq

/-- Signatures, timestamps and signing states by key. -/
structure TrustGraph where
  signatures : SortedMap SignatureKey Signature
  timestamps : SortedMap TimestampKey TrustedTimestamp
  signingStates : SortedMap PackageKey SigningState
deriving DecidableEq

/-- What one cascade changes. -/
structure Cascade where
  invalidated : List Signature
  signingStates : List SigningState
deriving DecidableEq

namespace TrustGraph

def empty : TrustGraph := ⟨.empty, .empty, .empty⟩

/-- Files a signature under its key. -/
def withSignature (g : TrustGraph) (s : Signature) : TrustGraph :=
  { g with signatures := g.signatures.insert s.key s }

/-- Files a timestamp under its key. -/
def withTimestamp (g : TrustGraph) (t : TrustedTimestamp) : TrustGraph :=
  { g with timestamps := g.timestamps.insert t.key t }

/-- Files a signing state under the key of its package. -/
def withSigningState (g : TrustGraph) (s : SigningState) : TrustGraph :=
  { g with signingStates := g.signingStates.insert s.packageKey s }

/-- The timestamps on a signature, in key order. -/
def timestampsFor (g : TrustGraph) (key : SignatureKey) : List TrustedTimestamp :=
  g.timestamps.values.filter (·.signatureKey == key)

/-- Whether a signature falls with the certificate. It is tied to it directly or by a timestamp
    the certificate issued; after a revocation it falls only if a timestamp lies after that time,
    any timestamp of a direct signature and those the certificate issued otherwise. -/
def isTainted (g : TrustGraph) (s : Signature) (certificate : CertificateKey) :
    CascadeRule → Bool
  | .unconditional =>
    s.certificateKey == certificate ||
      (g.timestampsFor s.key).any (·.certificateKey == certificate)
  | .revokedAt time =>
    (g.timestampsFor s.key).any fun t =>
      (s.certificateKey == certificate || t.certificateKey == certificate) && time.before t.value

/-- The valid signatures that fall, as invalid ones, in key order. -/
def invalidatedBy (g : TrustGraph) (certificate : CertificateKey) (rule : CascadeRule) :
    List Signature :=
  (g.signatures.values.filter fun s => s.status == .valid && g.isTainted s certificate rule).map
    fun s => { s with status := .invalid }

/-- The signing status of a package once the signatures with these keys are invalid. -/
def signingStatusWithout (g : TrustGraph) (invalid : List SignatureKey) (package : PackageKey) :
    SigningStatus :=
  .ofSignatures ((g.signatures.values.filter (·.packageKey == package)).map fun s =>
    if invalid.contains s.key then .invalid else s.status)

/-- Adds a key to an ascending list of keys, unless it is there. -/
def addKey (key : Int64) : List Int64 → List Int64
  | [] => [key]
  | k :: rest =>
    match compare key k with
    | .lt => key :: k :: rest
    | .eq => k :: rest
    | .gt => k :: addKey key rest

/-- Keys in ascending order, each once. -/
def ascending (keys : List Int64) : List Int64 := keys.foldr addKey []

/-- What follows when the certificate loses trust: signatures that fall, and signing states that
    come out different from what is recorded. -/
def cascade (g : TrustGraph) (certificate : CertificateKey) (rule : CascadeRule) : Cascade :=
  let invalidated := g.invalidatedBy certificate rule
  let invalid := invalidated.map (·.key)
  let states := (ascending (invalidated.map (·.packageKey))).filterMap fun package =>
    let status := g.signingStatusWithout invalid package
    if (g.signingStates.find? package).map (·.signingStatus) == some status then none
    else some ⟨package, status⟩
  ⟨invalidated, states⟩

/-- The graph with a cascade's changes in it. -/
def put (g : TrustGraph) (c : Cascade) : TrustGraph :=
  c.signingStates.foldl withSigningState (c.invalidated.foldl withSignature g)

end TrustGraph

end Admission
