import Admission.Files.Path
import Admission.Host
import Admission.Registry.Error
import Admission.Text.Lowercase

/-!
Package files in two directories, one for packages under validation and one for published packages.
A file is named for the identifier and the version of its package in lower case.
-/

namespace Admission

/-- The two directories of a package store. -/
structure PackageStore where
  validation : String
  published : String
deriving DecidableEq

namespace PackageStore

/-- The name of a package file. -/
def fileName (id version : String) : String :=
  Text.lower id ++ "." ++ Text.lower version ++ ".nupkg"

/-- Where the validation copy of a package is. -/
def validationPath (s : PackageStore) (id version : String) : String :=
  Path.join s.validation (fileName id version)

/-- Where the public copy of a package is. -/
def publicPath (s : PackageStore) (id version : String) : String :=
  Path.join s.published (fileName id version)

/-- An error of a file as one of a package. -/
def storageError (id version : String) : FileError → StorageError
  | .missing => .notFound id version
  | e => .io id version e.message

variable {m : Type → Type} [Monad m]

/-- The content of the validation copy. -/
def downloadValidationCopy (h : Host m) (s : PackageStore) (id version : String) :
    m (Except StorageError ByteArray) := do
  return (← h.read (s.validationPath id version)).mapError (storageError id version)

/-- Writes the public copy; its directory is made if it is missing. -/
def savePublicCopy (h : Host m) (s : PackageStore) (id version : String) (content : ByteArray) :
    m (Except StorageError Unit) := do
  match ← h.createDirectories s.published with
  | .error e => return .error (storageError id version e)
  | .ok () =>
    return (← h.write (s.publicPath id version) content).mapError (storageError id version)

/-- Removes a file; it need not be there. -/
def removeIfPresent (h : Host m) (path id version : String) : m (Except StorageError Unit) := do
  match ← h.remove path with
  | .error .missing => return .ok ()
  | .error e => return .error (storageError id version e)
  | .ok () => return .ok ()

/-- Removes the validation copy. -/
def deleteValidationCopy (h : Host m) (s : PackageStore) (id version : String) :
    m (Except StorageError Unit) :=
  removeIfPresent h (s.validationPath id version) id version

/-- Removes the public copy. -/
def deletePublicCopy (h : Host m) (s : PackageStore) (id version : String) :
    m (Except StorageError Unit) :=
  removeIfPresent h (s.publicPath id version) id version

end PackageStore

end Admission
