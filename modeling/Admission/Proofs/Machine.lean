import Admission.Machine

/-!
What running on a machine that is a value comes to: actions one after another, and the services that
change files.
-/

namespace Admission.Machine

variable {α β : Type} {s : Machine} {path : String} {content : ByteArray} {files : FileTree}
  {e : FileError}

theorem run_bind (x : StateM Machine α) (f : α → StateM Machine β) (s : Machine) :
    (x >>= f) s = f (x s).1 (x s).2 := rfl

theorem run_pure (a : α) (s : Machine) : (pure a : StateM Machine α) s = (a, s) := rfl

/-- The machine with other files. -/
def withFiles (s : Machine) (files : FileTree) : Machine := { s with files }

@[simp] theorem files_withFiles (s : Machine) (files : FileTree) :
    (s.withFiles files).files = files := rfl

theorem run_read (path : String) (s : Machine) : host.read path s = (s.files.read path, s) := rfl

theorem run_createDirectories (path : String) (s : Machine) :
    host.createDirectories path s =
      ((s.files.createDirectories path).2, s.withFiles (s.files.createDirectories path).1) := rfl

theorem run_write_of_ok (h : s.files.write path content = .ok files) :
    host.write path content s = (.ok (), s.withFiles files) := by
  simp only [host, change, h, withFiles]

theorem run_write_of_error (h : s.files.write path content = .error e) :
    host.write path content s = (.error e, s) := by
  simp only [host, change, h]

theorem run_remove_of_ok (h : s.files.remove path = .ok files) :
    host.remove path s = (.ok (), s.withFiles files) := by
  simp only [host, change, h, withFiles]

theorem run_remove_of_error (h : s.files.remove path = .error e) :
    host.remove path s = (.error e, s) := by
  simp only [host, change, h]

end Admission.Machine
