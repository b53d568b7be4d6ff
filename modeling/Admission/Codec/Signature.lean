import Admission.Codec.Fields
import Admission.Model.Signature

/-!
Signatures, timestamps and signing states as JSON.
-/

namespace Admission

open Codec

namespace SignatureStatus

def toJson : SignatureStatus → Json
  | .valid => .str "Valid"
  | .invalid => .str "Invalid"

def ofJson? (j : Json) : Option SignatureStatus :=
  match name? j with
  | some "Valid" => some .valid
  | some "Invalid" => some .invalid
  | _ => none

end SignatureStatus

namespace Signature

def toJson (s : Signature) : Json := .record [
  ("key", ofInt64 s.key),
  ("package_key", ofInt64 s.packageKey),
  ("certificate_key", ofInt64 s.certificateKey),
  ("status", s.status.toJson)]

def ofJson? (j : Json) : Option Signature := do
  let [key, packageKey, certificateKey, status] ←
    record? ["key", "package_key", "certificate_key", "status"] j | none
  return {
    key := ← required int64? key
    packageKey := ← required int64? packageKey
    certificateKey := ← required int64? certificateKey
    status := ← required SignatureStatus.ofJson? status }

end Signature

namespace TrustedTimestamp

def toJson (t : TrustedTimestamp) : Json := .record [
  ("key", ofInt64 t.key),
  ("signature_key", ofInt64 t.signatureKey),
  ("certificate_key", ofInt64 t.certificateKey),
  ("value", ofInstant t.value)]

def ofJson? (j : Json) : Option TrustedTimestamp := do
  let [key, signatureKey, certificateKey, value] ←
    record? ["key", "signature_key", "certificate_key", "value"] j | none
  return {
    key := ← required int64? key
    signatureKey := ← required int64? signatureKey
    certificateKey := ← required int64? certificateKey
    value := ← required instant? value }

end TrustedTimestamp

namespace SigningStatus

def toJson : SigningStatus → Json
  | .unsigned => .str "Unsigned"
  | .valid => .str "Valid"
  | .invalid => .str "Invalid"

def ofJson? (j : Json) : Option SigningStatus :=
  match name? j with
  | some "Unsigned" => some .unsigned
  | some "Valid" => some .valid
  | some "Invalid" => some .invalid
  | _ => none

end SigningStatus

namespace SigningState

def toJson (s : SigningState) : Json := .record [
  ("package_key", ofInt64 s.packageKey),
  ("signing_status", s.signingStatus.toJson)]

def ofJson? (j : Json) : Option SigningState := do
  let [packageKey, signingStatus] ← record? ["package_key", "signing_status"] j | none
  return {
    packageKey := ← required int64? packageKey
    signingStatus := ← required SigningStatus.ofJson? signingStatus }

end SigningState

end Admission
