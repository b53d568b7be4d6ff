import Admission.Log
import Admission.Model.Signature

/-!
What is reported about the work done, and the metrics and log entries that come of it.
-/

namespace Admission

/-- A report. -/
inductive Telemetry where
  | totalDuration (duration : Duration) (succeeded : Bool)
  | statusChange (old new : PackageStatus)
  | certificateAlert (certificate : Certificate)
  | signatureInvalidated (signature : Signature)
deriving DecidableEq

/-- What a metric records: one more of something, or a length of time. -/
inductive Measure where
  | increment
  | duration (d : Duration)
deriving DecidableEq

/-- One recording of a metric. -/
structure Metric where
  name : String
  labels : List (String × String)
  measure : Measure
deriving DecidableEq

namespace Telemetry

/-- The metric that a report is recorded in. -/
def metric : Telemetry → Metric
  | totalDuration d succeeded =>
    ⟨"gatehouse_validation_total_duration_seconds",
      [("succeeded", if succeeded then "true" else "false")], .duration d⟩
  | statusChange old new =>
    ⟨"gatehouse_package_status_changes_total", [("from", old.text), ("to", new.text)], .increment⟩
  | certificateAlert _ => ⟨"gatehouse_certificate_alerts_total", [], .increment⟩
  | signatureInvalidated _ => ⟨"gatehouse_signatures_invalidated_total", [], .increment⟩

/-- The log entries that come of a report. -/
def logs : Telemetry → List LogEntry
  | totalDuration d succeeded => [.debug "Validation duration recorded" [
      ("event_type", .text "validation.duration"),
      ("seconds", .seconds d),
      ("succeeded", .flag succeeded)]]
  | statusChange _ _ => []
  | certificateAlert c => [.error "Unable to validate certificate" [
      ("event_type", .text "certificate.alert.unable_to_validate"),
      ("certificate_key", .text (toString c.key.toInt)),
      ("thumbprint", .text c.thumbprint),
      ("validation_failures", .count c.validationFailures.toNat)]]
  | signatureInvalidated s => [.warn "Package signature should be invalidated" [
      ("event_type", .text "signature.invalidated"),
      ("signature_key", .text (toString s.key.toInt)),
      ("package_key", .text (toString s.packageKey.toInt)),
      ("certificate_key", .text (toString s.certificateKey.toInt))]]

end Telemetry

end Admission
