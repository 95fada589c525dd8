import BootSnapshot.FileSystem.DiskPath
import BootSnapshot.FileSystem.Error

set_option autoImplicit false

namespace BootSnapshot

inductive FileKind where
  | file
  | directory
  | link
deriving DecidableEq

structure FileStatus where
  kind : FileKind
  size : Nat
deriving DecidableEq

/-- What a directory tells: names in some order, with what stands at each, and what went wrong with
others. -/
structure Listing where
  members : List (String × FileKind)
  faults : List OsError := []
deriving DecidableEq

/-- The operations that read, in some monad, so that one program runs on the files of the machine
and on a file system that is a value. What takes a `Disk` alone has no means to write. -/
structure Disk (m : Type → Type) where
  /-- The absolute path without links and points of what a path leads to. -/
  canonical : String → m (Except OsError String)
  /-- The status of what a path leads to; it is not a link. -/
  status : String → m (Except OsError FileStatus)
  /-- The kind of what stands at a path itself, which may be a link. -/
  ownKind : String → m (Except OsError FileKind)
  list : String → m (Except OsError Listing)
  read : String → m (Except OsError (List UInt8))
  /-- No path leads through as many directories as this without meeting one of them again. -/
  depthBound : m Nat

/-- The operations that read and those that write. -/
structure Storage (m : Type → Type) extends Disk m where
  /-- Makes a file hold some bytes, whatever it held before. -/
  write : String → List UInt8 → m (Except OsError Unit)
  /-- Makes the second file hold what the first one holds. -/
  copy : String → String → m (Except OsError Unit)
  /-- Moves what stands at the first path to the second one, in place of what stood there. -/
  rename : String → String → m (Except OsError Unit)
  /-- Makes a directory and those on the way to it, as far as they are missing. -/
  createDirectories : String → m (Except OsError Unit)
  /-- Opens a file to write at its end, and makes it if it is missing. -/
  openLog : String → m (Except OsError Unit)

namespace Disk

variable {m : Type → Type} [Monad m]

def isDirectory (disk : Disk m) (path : String) : m Bool := do
  match ← disk.status path with
  | .ok status => pure (status.kind = .directory)
  | .error _ => pure false

def isFile (disk : Disk m) (path : String) : m Bool := do
  match ← disk.status path with
  | .ok status => pure (status.kind = .file)
  | .error _ => pure false

/-- Whether two paths lead to the same place, or are the same where one of them leads nowhere. -/
def sameFile (disk : Disk m) (a b : String) : m Bool := do
  match ← disk.canonical a, ← disk.canonical b with
  | .ok a, .ok b => pure (a = b)
  | _, _ => pure (DiskPath.samePath a b)

end Disk
end BootSnapshot
