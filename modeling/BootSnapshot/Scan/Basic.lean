import BootSnapshot.Scan.Job
import BootSnapshot.Scan.Report
import BootSnapshot.Text.Quoted

set_option autoImplicit false

namespace BootSnapshot

inductive ScanError where
  | rootInaccessible (path : String) (error : OsError)
  | rootNotDirectory (path : String)
  | cancelled
deriving DecidableEq

def ScanError.message : ScanError → String
  | .rootInaccessible path error =>
    "Scan root " ++ Text.quoted path ++ " is not accessible: " ++ error.message
  | .rootNotDirectory path => "Scan root " ++ Text.quoted path ++ " is not a directory"
  | .cancelled => "Scan cancelled"

structure ScanOptions where
  categories : List Category := Category.all
  /-- Whether links to directories are entered in the search for files. -/
  followLinks : Bool := false
  schedule : Scan.Schedule := .inOrder 1
  isCancelled : Bool := false

namespace Scan

variable {m : Type → Type} [Monad m]

/-- The categories whose directories a root cannot lack. -/
def essentialCategories : List Category := [.acpi, .driver, .kext]

def categoryPath (root : String) (category : Category) : String :=
  DiskPath.join root category.directory

/-- Whether a directory has the directories of all essential categories. -/
def isComplete (disk : Disk m) (root : String) : m Bool :=
  essentialCategories.allM fun category => disk.isDirectory (categoryPath root category)

/-- The root itself, or the directory `OC` in it if only that one is complete. -/
def resolveRoot (disk : Disk m) (root : String) : m String := do
  if ← isComplete disk root then return root
  let nested := DiskPath.join root "OC"
  if ← isComplete disk nested then return nested
  return root

/-- The place of a root, which must be a directory that can be listed. -/
def checkRoot (disk : Disk m) (root : String) : m (Except ScanError String) := do
  match ← disk.canonical root with
  | .error error => return .error (.rootInaccessible root error)
  | .ok place =>
    if ! (← disk.isDirectory place) then return .error (.rootNotDirectory root)
    match ← disk.list place with
    | .error error => return .error (.rootInaccessible root error)
    | .ok _ => return .ok place

def firstJob (root : String) (category : Category) : Job :=
  match category with
  | .kext => .bundles (categoryPath root category)
  | _ => .files category (categoryPath root category)

/-- Components are ordered by category, then by path. -/
def entryLe (a b : Component) : Bool :=
  a.category.rank < b.category.rank ||
    a.category.rank = b.category.rank && a.relativePath ≤ b.relativePath

def sameEntry (a b : Component) : Bool :=
  a.category = b.category && a.relativePath = b.relativePath

def missingDirectory (category : Category) : Skip := ⟨category.directory, "directory not found"⟩

/-- The report of results in the order of their tickets. Of components under one path the first
stays. -/
def assemble (root : String) (present missing : List Category) (results : List JobResult) :
    ScanReport where
  root := root
  scanned := present
  entries := withoutRepeats sameEntry ((results.flatMap JobResult.entries).mergeSort entryLe)
  skipped := (missing.map missingDirectory ++ results.flatMap JobResult.skipped).mergeSort Skip.le

end Scan

variable {m : Type → Type} [Monad m]

/-- Only a root that cannot be used or a cancelled scan is an error; what cannot be used below the
root is skipped. -/
def scan (disk : Disk m) (options : ScanOptions) (root : String) :
    m (Except ScanError ScanReport) := do
  match ← Scan.checkRoot disk root with
  | .error error => return .error error
  | .ok place =>
    if options.isCancelled then return .error .cancelled
    let root ← Scan.resolveRoot disk place
    let requested := Category.all.filter (· ∈ options.categories)
    let present ← requested.filterM fun category =>
      disk.isDirectory (Scan.categoryPath root category)
    let results ← Scan.runJobs disk options.followLinks options.schedule 0
      (present.map (Scan.firstJob root))
    return .ok (Scan.assemble root present (requested.filter (· ∉ present))
      (results.mergeSort Scan.JobResult.le))

end BootSnapshot
