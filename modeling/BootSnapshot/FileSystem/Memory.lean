import BootSnapshot.FileSystem.Tree

set_option autoImplicit false

namespace BootSnapshot.FileTree

def disk (tree : FileTree) : Disk Id where
  canonical path := (tree.find true path).map fun (names, _) => absolutePath names
  status path := (tree.find true path).map fun (_, entry) => entry.status
  ownKind path := (tree.find false path).map fun (_, entry) => entry.kind
  list path :=
    match tree.find true path with
    | .ok (_, .directory members) =>
      .ok { members := members.map fun (name, entry) => (name, entry.kind) }
    | .ok _ => .error .notDirectory
    | .error error => .error error
  read path :=
    match tree.find true path with
    | .ok (_, .file content) => .ok content
    | .ok _ => .error .isDirectory
    | .error error => .error error
  depthBound := tree.root.directoryCount + 1

/-- The tree with a file at a path that holds what becomes of the bytes it held, or of none. -/
def changeFile (tree : FileTree) (path : String) (change : List UInt8 → List UInt8) :
    Except OsError FileTree :=
  match tree.resolve true path with
  | .ok (.found names (.file content)) => .ok (tree.replaceAt names (.file (change content)))
  | .ok (.found _ _) => .error .isDirectory
  | .ok (.absent directory name) =>
    if path.toList.getLast? = some '/' then .error .isDirectory
    else .ok (tree.put directory name (.file (change [])))
  | .error error => .error error

def writeFile (tree : FileTree) (path : String) (bytes : List UInt8) : Except OsError FileTree :=
  tree.changeFile path fun _ => bytes

/-- The second file is emptied first, so a file copied onto itself ends empty. -/
def copyFile (tree : FileTree) (source destination : String) : Except OsError FileTree := do
  let _ ← tree.disk.read source
  let emptied ← tree.writeFile destination []
  let content ← emptied.disk.read source
  emptied.writeFile destination content

/-- Whether a path ends in a point or two, or is the root. -/
def endsInPoints (path : String) : Bool :=
  match ((Text.split '/' path).filter (· ≠ "")).getLast? with
  | some part => part = "." || part = ".."
  | none => true

def rename (tree : FileTree) (source destination : String) : Except OsError FileTree := do
  let (oldNames, entry) ← tree.find false source
  let move (names : List String) : FileTree :=
    (tree.drop oldNames.dropLast (oldNames.getLastD "")).replaceAt names entry
  match ← tree.resolve false destination with
  | .found names target =>
    if endsInPoints destination then .error (.other 16 "Device or resource busy")
    else
      match entry.kind, target.kind with
      | .directory, .directory => pure (move names)
      | .directory, _ => .error .notDirectory
      | _, .directory =>
        if destination.toList.getLast? = some '/' then .error .notDirectory
        else .error .isDirectory
      | _, _ => if names = oldNames then pure tree else pure (move names)
  | .absent directory name =>
    if destination.toList.getLast? = some '/' ∧ entry.kind ≠ .directory then .error .notDirectory
    else pure (move (directory ++ [name]))

/-- The tree with a directory at a path to which all but the last part lead. -/
def makeDirectory (tree : FileTree) (path : String) : Except OsError FileTree :=
  match tree.find true path with
  | .ok (_, .directory _) => .ok tree
  | .ok _ => .error .notDirectory
  | .error error =>
    match tree.resolve false path with
    | .ok (.absent directory name) => .ok (tree.put directory name (.directory []))
    | _ => .error error

/-- The paths that lead to a path step by step, itself the last. -/
def waysTo (path : String) : List String :=
  let parts := Text.split '/' path
  ((List.range parts.length).map fun k => "/".intercalate (parts.take (k + 1))).filter (· ≠ "")

def makeDirectories (tree : FileTree) (path : String) : Except OsError FileTree :=
  (waysTo path).foldlM makeDirectory tree

/-- The tree with the directories on the way to a path. -/
def makeParents (tree : FileTree) (path : String) : Except OsError FileTree :=
  match DiskPath.parent? path with
  | some parent => tree.makeDirectories parent
  | none => .ok tree

def makeLink (tree : FileTree) (path target : String) : Except OsError FileTree :=
  match tree.resolve false path with
  | .ok (.absent directory name) => .ok (tree.put directory name (.link target))
  | .ok (.found _ _) => .error (.other 17 "File exists")
  | .error error => .error error

/-- The tree without what stands at a path and without all that is in it. -/
def remove (tree : FileTree) (path : String) : Except OsError FileTree := do
  let (names, _) ← tree.find false path
  pure (tree.drop names.dropLast (names.getLastD ""))

/-- An operation that writes, on the current tree; one that fails leaves the tree as it was. -/
def updating (operation : FileTree → Except OsError FileTree) :
    StateM FileTree (Except OsError Unit) :=
  fun tree =>
    match operation tree with
    | .ok next => (.ok (), next)
    | .error error => (.error error, tree)

def storage : Storage (StateM FileTree) where
  canonical path := do return (← get).disk.canonical path
  status path := do return (← get).disk.status path
  ownKind path := do return (← get).disk.ownKind path
  list path := do return (← get).disk.list path
  read path := do return (← get).disk.read path
  depthBound := do return (← get).disk.depthBound
  write path bytes := updating (·.writeFile path bytes)
  copy source destination := updating (·.copyFile source destination)
  rename source destination := updating (·.rename source destination)
  createDirectories path := updating (·.makeDirectories path)
  openLog path := updating (·.changeFile path id)

end BootSnapshot.FileTree
