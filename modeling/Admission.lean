import Admission.Codec.Classification
import Admission.Codec.Graph
import Admission.Machine
import Admission.Main
import Admission.Session.Basic
import Admission.Proofs.Filing
import Admission.Proofs.Registry.Filed
import Admission.Proofs.Trust.Cascade
import Admission.Proofs.Trust.Loading
import Admission.Proofs.Trust.Planning
import Admission.Proofs.Session.Saving
import Admission.Proofs.Trust.Effect
import Admission.Proofs.Session.Reconciling
import Admission.Proofs.Session.Run
import Admission.Proofs.Publication
import Admission.Proofs.Registry.Status
import Admission.Proofs.Session.Rounds
import Admission.Proofs.Trust.Rounds
import Admission.Proofs.Lifecycle
import Admission.Proofs.Content
import Admission.Proofs.StaleCopies
import Admission.Proofs.Trust.SigningStates
import Admission.Proofs.Trust.Interleaving
import Admission.Proofs.Trust.History
import Admission.Proofs.Failure
import Admission.Proofs.Trust.Invalidations
import Admission.Proofs.Config.Acceptance
import Admission.Proofs.Trust.Repetition
import Admission.Proofs.Independence
import Admission.Proofs.Queue
import Admission.Proofs.Integrity
import Admission.Proofs.Rechecks
import Admission.Proofs.Restoring
import Admission.Proofs.Text.Digits
import Admission.Proofs.Text.Scanner
import Admission.Proofs.Time.Calendar
import Admission.Proofs.Time.Text
import Admission.Proofs.Uuid
import Admission.Proofs.Json.Literal
import Admission.Proofs.Json.Document
import Admission.Proofs.Codec.Fields
import Admission.Proofs.Codec.Records
import Admission.Proofs.Persistence
import Admission.Proofs.Reloading
import Admission.Proofs.Trust.Confluence
import Admission.Proofs.Machine
import Admission.Proofs.Text.Lowercase
import Admission.Proofs.Files.Path
import Admission.Proofs.Files.Tree
import Admission.Proofs.Files.PackageStore
import Admission.Proofs.Command.Attempt
import Admission.Proofs.Command.Services
import Admission.Proofs.Command.Certificate
import Admission.Proofs.Command.Reconcile
import Admission.Proofs.Trust.Monotonicity
import Admission.Proofs.Trust.Escalation
import Admission.Proofs.Commit
import Admission.Proofs.Registry.Staging
import Admission.Proofs.Config.Cycles
import Admission.Proofs.Config.Placeholder
import Admission.Proofs.Classification
import Admission.Proofs.Reports
