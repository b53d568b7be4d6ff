import Admission.Proofs.Codec.Records
import Admission.Proofs.Files.Tree
import Admission.Proofs.Machine
import Admission.Registry.File

/-!
What is kept outside is found again. Every snapshot is read from a file as it was put there
(`ofBytes?_toBytes`), whatever its lists hold: keys that come twice, any texts, numbers up to the
limits of their types, and every instant. So on a machine what has been saved is loaded
(`load_of_save`). The other documents are read back too, in either printed form
(`documents_read_back`).
-/

namespace Admission

open Codec Machine

section ReadBack

variable {α : Type} {read : Json → Option α} {write : α → Json}

/-- Either printed form of every value is read as the value, from a text and from a file. -/
def ReadBack (read : Json → Option α) (write : α → Json) : Prop :=
  ∀ a, ∀ text ∈ [(write a).compact, (write a).pretty],
    (Json.parse? text).bind read = some a ∧ (Json.parseContent? text.toUTF8).bind read = some a

theorem Codec.Faithful.readBack (h : Faithful read write) : ReadBack read write := by
  intro a text htext
  have hparse : Json.parse? text = some (write a) := by
    simp only [List.mem_cons, List.not_mem_nil, or_false] at htext
    rcases htext with rfl | rfl
    · exact (h.written a).parse?_compact
    · exact (h.written a).parse?_pretty
  rw [Json.parseContent?_toUTF8, hparse, Option.bind_some, h.restores]
  exact ⟨rfl, rfl⟩

end ReadBack

namespace Snapshot

/-- The content of a snapshot file is read as the snapshot. -/
theorem ofBytes?_toBytes (s : Snapshot) : ofBytes? s.toBytes = some s := by
  have hpretty := (faithful.readBack s s.toJson.pretty (by simp)).2
  rw [ofBytes?, toBytes]
  exact hpretty

variable {s : Snapshot} {path : String} {before after : Machine}

/-- Saving a snapshot is writing its file. -/
theorem run_save (s : Snapshot) (path : String) (before : Machine) :
    s.save host path before = match before.files.write path s.toBytes with
      | .ok files => (.ok (), before.withFiles files)
      | .error e => (.error (.snapshot (.unwritable path e.message)), before) := by
  rw [save, run_bind]
  cases h : before.files.write path s.toBytes with
  | ok files =>
    rw [run_write_of_ok h]
    rfl
  | error e =>
    rw [run_write_of_error h]
    rfl

theorem save_eq_ok_iff : s.save host path before = (.ok (), after) ↔
    ∃ files, before.files.write path s.toBytes = .ok files ∧ before.withFiles files = after := by
  rw [run_save]
  cases before.files.write path s.toBytes with
  | ok files =>
    constructor
    · rintro ⟨⟩
      exact ⟨files, rfl, rfl⟩
    · rintro ⟨_, ⟨⟩, rfl⟩
      rfl
  | error e =>
    constructor
    · rintro ⟨⟩
    · rintro ⟨_, ⟨⟩, -⟩

/-- Loading one leaves the machine as it is, and succeeds if the file holds one. -/
theorem run_load (path : String) (before : Machine) :
    (∀ s, (load host path before).1 = .ok s ↔
      ∃ content, before.files.read path = .ok content ∧ ofBytes? content = some s) ∧
      (load host path before).2 = before := by
  rw [load, run_bind, run_read]
  cases before.files.read path with
  | error e => simp [run_pure]
  | ok content => cases h : ofBytes? content <;> simp [h, run_pure]

/-- What has been saved is loaded. -/
theorem load_of_save (h : s.save host path before = (.ok (), after)) :
    load host path after = (.ok s, after) := by
  obtain ⟨files, hwrite, rfl⟩ := save_eq_ok_iff.1 h
  obtain ⟨hloaded, hsame⟩ := run_load path (before.withFiles files)
  exact Prod.ext ((hloaded s).2 ⟨_, FileTree.read_of_write hwrite, ofBytes?_toBytes s⟩) hsame

end Snapshot

/-- A snapshot is saved where its file can be written, and loaded as it was saved. Trust graphs,
    configurations, verification results and messages are read back from what they are written as,
    and so are snapshots. -/
theorem documents_read_back :
    (∀ (s : Snapshot) (path : String) (before : Machine),
      ((∃ after, s.save host path before = (.ok (), after)) ↔
        ∃ files, before.files.write path s.toBytes = .ok files) ∧
      ∀ after, s.save host path before = (.ok (), after) →
        Snapshot.load host path after = (.ok s, after)) ∧
      Restores Snapshot.ofBytes? Snapshot.toBytes ∧
      ReadBack Snapshot.ofJson? Snapshot.toJson ∧
      ReadBack TrustGraph.ofJson? TrustGraph.toJson ∧
      ReadBack Config.ofJson? Config.toJson ∧
      ReadBack VerificationResult.ofJson? VerificationResult.toJson ∧
      ReadBack ValidationMessage.ofJson? ValidationMessage.toJson ∧
      ReadBack CertificateMessage.ofJson? CertificateMessage.toJson := by
  refine ⟨fun s path before => ⟨?_, fun _ => Snapshot.load_of_save⟩, Snapshot.ofBytes?_toBytes,
    Snapshot.faithful.readBack, TrustGraph.faithful.readBack, Config.faithful.readBack,
    VerificationResult.faithful.readBack, ValidationMessage.faithful.readBack,
    CertificateMessage.faithful.readBack⟩
  simp [Snapshot.save_eq_ok_iff]

/-- A package twice under one key, numbers at the limits of their types, a text that has to be
    escaped, and half a second into a leap second. -/
def Snapshot.unusual : Snapshot :=
  { packages := [⟨Int64.minValue, "Alpha", "1.0", "1.0.0", .validating⟩,
      ⟨Int64.minValue, "\"al\\pha\n\"", "", "1.0.0", .available⟩]
    validationSets := [⟨.ofDigit 1, "Alpha", "1.0.0",
      ⟨59, 1500000000, by decide, by decide, by decide, fun _ => rfl⟩, []⟩]
    certificates := [⟨Int64.maxValue, "one", .good, 4294967295, none⟩]
    attempts := [⟨.ofDigit 4, Int64.maxValue, none⟩]
    signatures := []
    timestamps := []
    signingStates := [] }

/-- It is saved above the working directory, in which nothing is put. -/
theorem documents_read_back_unusual :
    ∃ after, Snapshot.unusual.save host "../registry.json" (.start .empty [] .epoch) =
        (.ok (), after) ∧
      Snapshot.load host "../registry.json" after = (.ok .unusual, after) ∧
      after.files.entries.entries = [] := by
  obtain ⟨hsaved, hloaded⟩ :=
    documents_read_back.1 .unusual "../registry.json" (.start .empty [] .epoch)
  have hwrite : FileTree.empty.write "../registry.json" Snapshot.unusual.toBytes =
    .ok (FileTree.empty.put ["registry.json"] (.file Snapshot.unusual.toBytes)) := rfl
  obtain ⟨after, hafter⟩ := hsaved.2 ⟨_, hwrite⟩
  refine ⟨after, hafter, hloaded after hafter, ?_⟩
  obtain ⟨files, hfiles, rfl⟩ := Snapshot.save_eq_ok_iff.1 hafter
  obtain rfl := Except.ok.inj (hwrite.symm.trans hfiles)
  rfl

end Admission
