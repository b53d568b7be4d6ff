import Admission.Codec.Fields
import Admission.Model.Message

/-!
Messages as JSON.
-/

namespace Admission

open Codec

namespace ValidationMessage

def toJson (m : ValidationMessage) : Json := .record [
  ("validation_tracking_id", ofUuid m.trackingId),
  ("package_id", .str m.packageId),
  ("package_version", .str m.packageVersion)]

def ofJson? (j : Json) : Option ValidationMessage := do
  let [trackingId, packageId, packageVersion] ←
    record? ["validation_tracking_id", "package_id", "package_version"] j | none
  return {
    trackingId := ← required uuid? trackingId
    packageId := ← required text? packageId
    packageVersion := ← required text? packageVersion }

end ValidationMessage

namespace CertificateMessage

def toJson (m : CertificateMessage) : Json := .record [
  ("certificate_key", ofInt64 m.certificateKey),
  ("validation_id", ofUuid m.validationId)]

def ofJson? (j : Json) : Option CertificateMessage := do
  let [certificateKey, validationId] ← record? ["certificate_key", "validation_id"] j | none
  return {
    certificateKey := ← required int64? certificateKey
    validationId := ← required uuid? validationId }

end CertificateMessage

end Admission
