import Mathlib.Data.List.Basic
import Admission.Files.PackageStore
import Admission.Proofs.Files.Tree
import Admission.Proofs.Machine
import Admission.Proofs.Text.Lowercase

/-!
Package files that get in each other's way. One name is given to every spelling of an identifier and
a version that the registry takes for the same, but it does not tell where the identifier ends and
the version begins, nor letters that have one small form. What is done to the files of a name leaves
those of another alone as long as the names differ behind the last slash.
-/

namespace Admission.PackageStore

open Machine

variable {id v id' v' path : String} {s : Machine}

/-! ### Names -/

theorem fileName_congr (hid : Text.eqIgnoreAsciiCase id id' = true)
    (hv : Text.eqIgnoreAsciiCase v v' = true) : fileName id v = fileName id' v' := by
  rw [fileName, fileName, Text.lower_eq_of_eqIgnoreAsciiCase hid,
    Text.lower_eq_of_eqIgnoreAsciiCase hv]

theorem toList_append_point (a b : String) :
    (a ++ "." ++ b).toList = a.toList ++ '.' :: b.toList := by
  rw [String.toList_append, String.toList_append, List.append_assoc]
  rfl

/-- The point behind a text, seen from one that goes on at least as far. -/
theorem point_within {a b a' b' : String} {rest : List Char} (ha : a'.toList = a.toList ++ rest)
    (hb : '.' :: b.toList = rest ++ '.' :: b'.toList) :
    a = a' ∧ b = b' ∨ ∃ m, a' = a ++ "." ++ m ∧ b = m ++ "." ++ b' := by
  cases rest with
  | nil =>
    rw [List.append_nil, String.toList_inj] at ha
    rw [List.nil_append, List.cons.injEq, String.toList_inj] at hb
    exact .inl ⟨ha.symm, hb.2⟩
  | cons c m =>
    rw [List.cons_append, List.cons.injEq] at hb
    obtain ⟨rfl, hb⟩ := hb
    refine .inr ⟨String.ofList m, ?_, ?_⟩
    · rw [← String.toList_inj, toList_append_point, String.toList_ofList, ha]
    · rw [← String.toList_inj, toList_append_point, String.toList_ofList, hb]

/-- A point between two texts may be a point in either of two others. -/
theorem append_point_eq_iff {a b a' b' : String} :
    a ++ "." ++ b = a' ++ "." ++ b' ↔
      a = a' ∧ b = b' ∨ (∃ m, a' = a ++ "." ++ m ∧ b = m ++ "." ++ b') ∨
        ∃ m, a = a' ++ "." ++ m ∧ b' = m ++ "." ++ b := by
  constructor
  · intro h
    have hchars := congrArg String.toList h
    rw [toList_append_point, toList_append_point] at hchars
    rcases List.append_eq_append_iff.1 hchars with ⟨rest, ha, hb⟩ | ⟨rest, ha, hb⟩
    · exact (point_within ha hb).imp_right .inl
    · exact (point_within ha hb).imp (fun h => ⟨h.1.symm, h.2.symm⟩) .inr
  · rintro (⟨rfl, rfl⟩ | ⟨m, rfl, rfl⟩ | ⟨m, rfl, rfl⟩)
    · rfl
    · simp only [String.append_assoc]
    · simp only [String.append_assoc]

theorem fileName_eq_iff :
    fileName id v = fileName id' v' ↔
      Text.lower id = Text.lower id' ∧ Text.lower v = Text.lower v' ∨
        (∃ m, Text.lower id' = Text.lower id ++ "." ++ m ∧
          Text.lower v = m ++ "." ++ Text.lower v') ∨
        ∃ m, Text.lower id = Text.lower id' ++ "." ++ m ∧
          Text.lower v' = m ++ "." ++ Text.lower v := by
  rw [fileName, fileName, ← append_point_eq_iff]
  exact String.append_left_inj _

/-- A package file has a name, whatever the identifier and the version are. -/
theorem exists_lastName?_fileName (id v : String) : ∃ n, Path.lastName? (fileName id v) = some n :=
  Path.exists_lastName? (String.toList_append (s := Text.lower id ++ "." ++ Text.lower v))
    (by decide) (by decide)

theorem lastName?_validationPath (st : PackageStore) (id v : String) :
    Path.lastName? (st.validationPath id v) = Path.lastName? (fileName id v) := by
  obtain ⟨n, hn⟩ := exists_lastName?_fileName id v
  rw [hn]
  exact Path.lastName?_join hn _

theorem lastName?_publicPath (st : PackageStore) (id v : String) :
    Path.lastName? (st.publicPath id v) = Path.lastName? (fileName id v) := by
  obtain ⟨n, hn⟩ := exists_lastName?_fileName id v
  rw [hn]
  exact Path.lastName?_join hn _

/-! ### Operations -/

variable {content : ByteArray}

/-- A file that need not be there is removed if it can be. -/
theorem files_removeIfPresent (path id v : String) (s : Machine) :
    ∃ files, (removeIfPresent host path id v s).2 = s.withFiles files ∧
      s.files.Clears path files := by
  rw [removeIfPresent, run_bind]
  cases h : s.files.remove path with
  | ok files =>
    rw [run_remove_of_ok h]
    exact ⟨files, rfl, .inl h⟩
  | error e =>
    rw [run_remove_of_error h]
    refine ⟨s.files, ?_, .inr ⟨rfl, fun _ hf => nomatch h.symm.trans hf⟩⟩
    cases e <;> rfl

/-- The public copy is written after its directory is made. -/
theorem files_savePublicCopy (st : PackageStore) (id v : String) (content : ByteArray)
    (s : Machine) :
    ∃ files, (savePublicCopy host st id v content s).2 = s.withFiles files ∧
      let made := (s.files.createDirectories st.published).1
      (files = made ∨ made.write (st.publicPath id v) content = .ok files) ∧
        ((savePublicCopy host st id v content s).1 = .ok () →
          made.write (st.publicPath id v) content = .ok files) := by
  rw [savePublicCopy, run_bind, run_createDirectories]
  cases (s.files.createDirectories st.published).2 with
  | error e => exact ⟨_, rfl, .inl rfl, nofun⟩
  | ok =>
    simp only [run_bind]
    cases h : (s.files.createDirectories st.published).1.write (st.publicPath id v) content with
    | error e =>
      rw [run_write_of_error (by simpa using h)]
      exact ⟨_, rfl, .inl rfl, nofun⟩
    | ok files =>
      rw [run_write_of_ok (by simpa using h)]
      exact ⟨files, rfl, .inr rfl, fun _ => rfl⟩

/-- The operations on the files of a package. -/
def changes (st : PackageStore) (id v : String) (content : ByteArray) :
    List (StateM Machine (Except StorageError Unit)) :=
  [st.savePublicCopy host id v content, st.deleteValidationCopy host id v,
    st.deletePublicCopy host id v]

/-- They keep all directories, and all files of other names. -/
theorem sameFiles_of_changes {st : PackageStore} {act : StateM Machine (Except StorageError Unit)}
    {n : String} (hact : act ∈ st.changes id v content)
    (hn : Path.lastName? (fileName id v) ≠ some n.toList) (s : Machine) :
    s.files.KeepsDirectories (act s).2.files ∧ s.files.SameFiles (act s).2.files n := by
  simp only [changes, List.mem_cons, List.not_mem_nil, or_false] at hact
  rcases hact with rfl | rfl | rfl
  · obtain ⟨files, hs, h, -⟩ := files_savePublicCopy st id v content s
    have hmade := FileTree.extends_createDirectories s.files st.published
    rw [hs, files_withFiles]
    rcases h with rfl | h
    · exact ⟨hmade.keepsDirectories, hmade.sameFiles n⟩
    · rw [← lastName?_publicPath st] at hn
      exact ⟨hmade.keepsDirectories.trans (FileTree.keepsDirectories_of_write h),
        (hmade.sameFiles n).trans (FileTree.sameFiles_of_write h hn)⟩
  · obtain ⟨files, hs, h⟩ := files_removeIfPresent (st.validationPath id v) id v s
    rw [deleteValidationCopy, hs, files_withFiles]
    exact ⟨h.keepsDirectories, h.sameFiles (by rwa [lastName?_validationPath])⟩
  · obtain ⟨files, hs, h⟩ := files_removeIfPresent (st.publicPath id v) id v s
    rw [deletePublicCopy, hs, files_withFiles]
    exact ⟨h.keepsDirectories, h.sameFiles (by rwa [lastName?_publicPath])⟩

/-- The paths of the two copies of a package. -/
def paths (st : PackageStore) (id v : String) : List String :=
  [st.validationPath id v, st.publicPath id v]

/-- A machine with a directory next to a published file. -/
def neighbours : Machine :=
  .start ((FileTree.empty.plant ["public", "beta.1.0.nupkg"] (.file "beta".toUTF8)).plant
    ["public", "alpha"] .directory) [] .epoch

end Admission.PackageStore
