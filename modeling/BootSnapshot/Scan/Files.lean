import BootSnapshot.Component.Basic
import BootSnapshot.FileSystem.Traversal
import BootSnapshot.Sorted
import BootSnapshot.Text.Case

set_option autoImplicit false

namespace BootSnapshot.Scan

/-- Files below a directory, by their paths from it, and what could not be used. -/
structure FoundFiles where
  files : List String
  skipped : List Skip
deriving DecidableEq

/-- Whether a path ends in one of some extensions, which are in lower case. -/
def hasExtension (extensions : List String) (path : String) : Bool :=
  match DiskPath.extension? path with
  | some ending => Text.asciiLowercase ending ∈ extensions
  | none => false

inductive Yield where
  | file (path : String)
  | skipped (skip : Skip)
  | nothing

def Yield.file? : Yield → Option String
  | .file path => some path
  | _ => none

def Yield.skip? : Yield → Option Skip
  | .skipped skip => some skip
  | _ => none

def yieldFile (directory path : String) : Yield :=
  match ComponentPath.relative? directory path with
  | some relative => .file relative
  | none => .skipped ⟨path, "path is outside the category directory"⟩

/-- The yield of a path that cannot be used. If it is not known, or not below the directory,
another text is told in its place. -/
def yieldSkip (directory : String) (path : Option String) (elsewhere reason : String) : Yield :=
  .skipped ⟨(path.bind (ComponentPath.relative? directory)).getD elsewhere, reason⟩

variable {m : Type → Type} [Monad m]

/-- A visited path with a right extension yields a file if it leads to one. -/
def judge (disk : Disk m) (directory : String) (extensions : List String) :
    Traversal.Step → m Yield
  | .error obstacle => return yieldSkip directory obstacle.path? directory obstacle.message
  | .ok visit => do
    if ! hasExtension extensions visit.path then return .nothing
    if visit.kind = .file then return yieldFile directory visit.path
    if ! visit.isLink then return .nothing
    match ← disk.status visit.path with
    | .ok status =>
      return if status.kind = .file then yieldFile directory visit.path else .nothing
    | .error error =>
      return yieldSkip directory (some visit.path) visit.path ("broken symbolic link: " ++ error.message)

/-- The files with some extensions, in any case, at any depth below a directory, in order and each
once. No part of their paths is hidden. A link to a file counts as a file. -/
def findFiles (disk : Disk m) (options : Traversal.Options) (extensions : List String)
    (directory : String) : m FoundFiles := do
  let steps ← Traversal.start disk options directory
  let yields ← steps.mapM (judge disk directory extensions)
  return ⟨distinctTexts (yields.filterMap Yield.file?),
    (yields.filterMap Yield.skip?).mergeSort Skip.le⟩

end BootSnapshot.Scan
