import Admission.Files.Path
import Admission.SortedMap

/-!
A tree of files and directories, kept as what stands at each place below its root. The working
directory is a place in it. A path is followed step by step from the root or from the working
directory; whatever is passed on the way has to be a directory.
-/

namespace Admission

/-- Where something stands in a tree: the names from the root down. -/
abbrev Place := List String

/-- What stands at a place. -/
inductive FileEntry where
  | file (content : ByteArray)
  | directory

/-- A tree of files and directories, seen from a working directory. -/
structure FileTree where
  nodes : SortedMap Place FileEntry
  working : Place

namespace FileTree

/-- A tree in which there is a working directory, with nothing in it, and nothing else. -/
def empty : FileTree := ⟨.empty, ["work"]⟩

/-- What stands at a place. The working directory and all that it lies in are directories, so the
    root is one. -/
def entry? (t : FileTree) (p : Place) : Option FileEntry :=
  if p <+: t.working then some .directory else t.nodes.find? p

/-- What stands below the working directory, by the names from there. -/
def entries (t : FileTree) : SortedMap Place FileEntry :=
  .ofList (t.nodes.entries.filterMap fun e => (t.working.isPrefixOf? e.1).map (·, e.2))

/-- The tree with something at a place. -/
def put (t : FileTree) (p : Place) (e : FileEntry) : FileTree :=
  { t with nodes := t.nodes.insert p e }

/-- The tree without what stands at a place. -/
def erase (t : FileTree) (p : Place) : FileTree := { t with nodes := t.nodes.erase p }

/-- The tree with something below the working directory, and the directories on the way to it. -/
def plant (t : FileTree) (names : List String) (e : FileEntry) : FileTree :=
  ((List.range names.length).foldl (fun t n =>
    if n = 0 then t else t.put (t.working ++ names.take n) .directory) t).put
      (t.working ++ names) e

/-- Where a name in a directory stands, whether or not there is something. -/
def below (t : FileTree) (p : Place) (n : String) : Except FileError Place :=
  match t.entry? p with
  | none => .error .missing
  | some (.file _) => .error .notDirectory
  | some .directory =>
    if Path.maxNameBytes < n.utf8ByteSize then .error .nameTooLong else .ok (p ++ [n])

/-- Follows a step from a place. Up from the root leads to the root. -/
def follow (t : FileTree) (p : Place) (s : PathStep) : Except FileError Place :=
  match t.entry? p, s with
  | none, _ => .error .missing
  | some (.file _), _ => .error .notDirectory
  | some .directory, .here => .ok p
  | some .directory, .up => .ok p.dropLast
  | some .directory, .name n => do
    let q ← t.below p n
    if (t.entry? q).isSome then .ok q else .error .missing

/-- Where steps begin: at the root or in the working directory. -/
def origin (t : FileTree) (rooted : Bool) : Place := if rooted then [] else t.working

/-- Follows steps to a place. -/
def walk (t : FileTree) (rooted : Bool) (steps : List PathStep) : Except FileError Place :=
  steps.foldlM t.follow (t.origin rooted)

/-- The place that a path leads to. -/
def locate (t : FileTree) (path : String) : Except FileError Place := do
  let path ← Path.ofText path
  t.walk path.rooted (if path.slashed then path.steps ++ [.here] else path.steps)

/-- The directory in which the last name on a path is looked up, and that name. A path that ends in
    a step here or up names a directory and nothing in it. -/
def lastName (t : FileTree) (path : Path) : Except FileError (Place × String) := do
  match path.steps.getLast? with
  | some (.name n) => return (← t.walk path.rooted (path.steps.dropLast ++ [.here]), n)
  | _ =>
    let _ ← t.walk path.rooted path.steps
    .error .isDirectory

/-- The content of a file. -/
def read (t : FileTree) (path : String) : Except FileError ByteArray := do
  match t.entry? (← t.locate path) with
  | some (.file content) => .ok content
  | some .directory => .error .isDirectory
  | none => .error .missing

/-- Whether a path leads to a file. -/
def isFile (t : FileTree) (path : String) : Bool :=
  match t.read path with
  | .ok _ => true
  | .error _ => false

/-- The tree with that content in a file, which is made if it is missing. A slash at the end is
    refused before the name in front of it is looked up. -/
def write (t : FileTree) (path : String) (content : ByteArray) : Except FileError FileTree := do
  let path ← Path.ofText path
  let (directory, n) ← t.lastName path
  if path.slashed then .error .isDirectory
  else
    let p ← t.below directory n
    match t.entry? p with
    | some .directory => .error .isDirectory
    | _ => .ok (t.put p (.file content))

/-- The tree without a file. With a slash at the end the name in front of it is looked up first, and
    a file is refused for not being a directory. -/
def remove (t : FileTree) (path : String) : Except FileError FileTree := do
  let path ← Path.ofText path
  let (directory, n) ← t.lastName path
  let p ← t.below directory n
  match t.entry? p with
  | some (.file _) => if path.slashed then .error .notDirectory else .ok (t.erase p)
  | some .directory => .error .isDirectory
  | none => .error .missing

/-- Whether steps lead to a directory. -/
def isDirectory (t : FileTree) (rooted : Bool) (steps : List PathStep) : Bool :=
  match t.walk rooted (steps ++ [.here]) with
  | .ok _ => true
  | .error _ => false

/-- Makes a directory. What a step here or up leads to is always present. -/
def makeDirectory (t : FileTree) (rooted : Bool) (steps : List PathStep) :
    Except FileError FileTree := do
  let parent ← t.walk rooted steps.dropLast
  match steps.getLast? with
  | some (.name n) =>
    let p ← t.below parent n
    if (t.entry? p).isSome then .error .present else .ok (t.put p .directory)
  | _ =>
    let _ ← t.follow parent .here
    .error .present

/-- Makes a directory unless it is there. -/
def ensureDirectory (t : FileTree) (rooted : Bool) (steps : List PathStep) :
    FileTree × Except FileError Unit :=
  match t.makeDirectory rooted steps with
  | .ok made => (made, .ok ())
  | .error e => (t, if t.isDirectory rooted steps then .ok () else .error e)

/-- Makes a directory, after those that it lies in if it cannot be made without. What was made
    stays when a later one is refused. -/
def createFrom (t : FileTree) (rooted : Bool) (steps : List PathStep) :
    FileTree × Except FileError Unit :=
  match _h : steps with
  | [] => (t, .ok ())
  | _ :: _ =>
    match t.ensureDirectory rooted steps with
    | (_, .error .missing) =>
      match t.createFrom rooted (Path.parentSteps steps) with
      | (t, .ok ()) => t.ensureDirectory rooted steps
      | refused => refused
    | result => result
termination_by steps.length
decreasing_by
  subst _h
  exact Path.parentSteps_length (List.cons_ne_nil _ _)

/-- Makes the missing directories on a path. On the empty path there are none. -/
def createDirectories (t : FileTree) (path : String) : FileTree × Except FileError Unit :=
  if path.isEmpty then (t, .ok ())
  else match Path.ofText path with
    | .error e => (t, .error e)
    | .ok path => t.createFrom path.rooted path.steps

end FileTree

end Admission
