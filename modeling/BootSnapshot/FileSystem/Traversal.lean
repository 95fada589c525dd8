import BootSnapshot.FileSystem.Disk

set_option autoImplicit false

namespace BootSnapshot

namespace Traversal

structure Options where
  followLinks : Bool := false
  /-- How many directories deep an entry may lie below the start, if that is bounded. -/
  maxDepth : Option Nat := none

/-- An entry on the way. -/
structure Visit where
  path : String
  /-- The kind of what the path leads to if links are followed, else of what stands there. -/
  kind : FileKind
  /-- Whether a link stands there. -/
  isLink : Bool
deriving DecidableEq

/-- Why an entry cannot be visited or gone through. -/
inductive Obstacle where
  | system (path : String) (error : OsError)
  /-- A directory does not tell one of its names. -/
  | nameless (error : OsError)
  | loop (link ancestor : String)
deriving DecidableEq

namespace Obstacle

/-- The path that the obstacle stands at, if it is known. -/
def path? : Obstacle → Option String
  | .system path _ => some path
  | .nameless _ => none
  | .loop link _ => some link

def message : Obstacle → String
  | .system path error => "IO error for operation on " ++ path ++ ": " ++ error.message
  | .nameless error => error.message
  | .loop link ancestor =>
    "File system loop found: " ++ link ++ " points to an ancestor " ++ ancestor

end Obstacle

/-- What meets the one who goes through a directory. -/
abbrev Step := Except Obstacle Visit

/-- A directory that is being gone through: its path and the place that the path leads to. -/
structure Ancestor where
  path : String
  place : String

/-- Names that start with a point are hidden. -/
def isHidden (name : String) : Bool := name.toList.head? = some '.'

variable {m : Type → Type} [Monad m]

/-- The place that a path leads to; a path that leads nowhere counts as a place of its own. -/
def placeOf (disk : Disk m) (path : String) : m String := do
  match ← disk.canonical path with
  | .ok place => pure place
  | .error _ => pure path

def visit (disk : Disk m) (options : Options) (ancestors : List Ancestor) (path : String)
    (kind : FileKind) : m Step := do
  if kind = .link && options.followLinks then
    match ← disk.status path with
    | .error error => pure (.error (.system path error))
    | .ok status =>
      if status.kind = .directory then
        let place ← placeOf disk path
        match ancestors.find? (·.place = place) with
        | some ancestor => pure (.error (.loop path ancestor.path))
        | none => pure (.ok ⟨path, status.kind, true⟩)
      else pure (.ok ⟨path, status.kind, true⟩)
  else pure (.ok ⟨path, kind, kind = .link⟩)

/-- The directories that are being gone through, with one more. Without links to follow no way
closes, and they are not looked at. -/
def enter (disk : Disk m) (options : Options) (ancestors : List Ancestor) (path : String) :
    m (List Ancestor) := do
  if options.followLinks then return ⟨path, ← placeOf disk path⟩ :: ancestors
  else return ancestors

/-- Goes through a directory at a depth; `fuel` bounds the depth from here. -/
def goThrough (disk : Disk m) (options : Options) :
    (fuel depth : Nat) → List Ancestor → String → m (List Step)
  | 0, _, _, _ => pure []
  | fuel + 1, depth, ancestors, directory => do
    if options.maxDepth.any (· ≤ depth) then return []
    let ancestors ← enter disk options ancestors directory
    match ← disk.list directory with
    | .error error => return [.error (.system directory error)]
    | .ok listing =>
      let steps ← listing.members.mapM fun (name, kind) => do
        match ← visit disk options ancestors (DiskPath.join directory name) kind with
        | .error obstacle => pure [.error obstacle]
        | .ok found =>
          if isHidden name then pure []
          else if found.kind = .directory then
            return .ok found :: (← goThrough disk options fuel (depth + 1) ancestors found.path)
          else pure [.ok found]
      return listing.faults.map (.error ∘ .nameless) ++ steps.flatten

/-- Visits a path and all below it. A link at the start is entered in any case. Other links are
entered only if links are followed, and then a link to a directory that is being gone through is an
error, so that the way never closes. -/
def start (disk : Disk m) (options : Options) (path : String) : m (List Step) := do
  match ← disk.ownKind path with
  | .error error => return [.error (.system path error)]
  | .ok kind =>
    match ← visit disk options [] path kind with
    | .error obstacle => return [.error obstacle]
    | .ok found =>
      if found.kind = .file then return [.ok found]
      else
        match ← disk.status path with
        | .error error => return [.error (.system path error)]
        | .ok status =>
          if status.kind = .directory then
            return .ok found :: (← goThrough disk options (← disk.depthBound) 0 [] path)
          else return [.ok found]

end Traversal
end BootSnapshot
