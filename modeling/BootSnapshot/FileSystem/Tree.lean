import BootSnapshot.FileSystem.Disk

set_option autoImplicit false

namespace BootSnapshot

/-- What stands under a name. -/
inductive Entry where
  | file (content : List UInt8)
  | directory (members : List (String × Entry))
  | link (target : String)

namespace Entry

def kind : Entry → FileKind
  | .file _ => .file
  | .directory _ => .directory
  | .link _ => .link

def status (entry : Entry) : FileStatus :=
  match entry with
  | .file content => ⟨.file, content.length⟩
  | entry => ⟨entry.kind, 0⟩

def member? (name : String) : List (String × Entry) → Option Entry
  | [] => none
  | (other, entry) :: rest => if other = name then some entry else member? name rest

/-- Members with another entry under a name, which comes last if it is new. -/
def putMember (name : String) (entry : Entry) : List (String × Entry) → List (String × Entry)
  | [] => [(name, entry)]
  | (other, old) :: rest =>
    if other = name then (name, entry) :: rest else (other, old) :: putMember name entry rest

/-- The entry that names lead to, links not followed. -/
def at? (entry : Entry) : List String → Option Entry
  | [] => some entry
  | name :: rest =>
    match entry with
    | .directory members =>
      match member? name members with
      | some child => child.at? rest
      | none => none
    | _ => none

/-- The entry with the members of one directory changed; what is no directory stays. -/
def changeMembers (change : List (String × Entry) → List (String × Entry)) (entry : Entry) :
    List String → Entry
  | [] =>
    match entry with
    | .directory members => .directory (change members)
    | entry => entry
  | name :: rest =>
    match entry with
    | .directory members =>
      match member? name members with
      | some child => .directory (putMember name (child.changeMembers change rest) members)
      | none => .directory members
    | entry => entry

mutual

def directoryCount : Entry → Nat
  | .directory members => directoriesAmong members + 1
  | _ => 0

def directoriesAmong : List (String × Entry) → Nat
  | [] => 0
  | (_, entry) :: rest => entry.directoryCount + directoriesAmong rest

end

end Entry

/-- The entries below the root, and the working directory as the names that lead to it. -/
structure FileTree where
  root : Entry := .directory []
  working : List String := []

namespace FileTree

/-- Where a path leads. -/
inductive Place where
  | found (names : List String) (entry : Entry)
  /-- The directory is there, and nothing in it has the name. -/
  | absent (directory : List String) (name : String)

def maxLinks : Nat := 40

def maxNameBytes : Nat := 255

def maxPathBytes : Nat := 4095

/-- Follows the parts of a path from a place on. A link at the end is followed if `followLast`, and
each one costs one of `links`. -/
def follow (tree : FileTree) (followLast : Bool) (links : Nat) (names : List String)
    (parts : List String) : Except OsError Place :=
  match parts with
  | [] =>
    match tree.root.at? names with
    | some entry => .ok (.found names entry)
    | none => .error .notFound
  | part :: rest =>
    match tree.root.at? names with
    | none => .error .notFound
    | some (.directory members) =>
      if part = "" ∨ part = "." then tree.follow followLast links names rest
      else if part = ".." then tree.follow followLast links names.dropLast rest
      else if maxNameBytes < part.utf8ByteSize then .error .nameTooLong
      else
        match Entry.member? part members with
        | none =>
          if rest.all (· = "") then .ok (.absent names part) else .error .notFound
        | some (.link target) =>
          if rest = [] ∧ followLast = false then .ok (.found (names ++ [part]) (.link target))
          else
            match links with
            | 0 => .error .tooManyLinks
            | links + 1 =>
              tree.follow followLast links (if DiskPath.isAbsolute target then [] else names)
                (Text.split '/' target ++ rest)
        | some _ => tree.follow followLast links (names ++ [part]) rest
    | some _ => .error .notDirectory
termination_by (links, parts.length)

/-- Where a path leads from the working directory. A link stands for the path that it holds, and
only so many links may lie on one way. -/
def resolve (tree : FileTree) (followLast : Bool) (path : String) : Except OsError Place :=
  if '\x00' ∈ path.toList then .error .nullInPath
  else if path = "" then .error .notFound
  else if maxPathBytes < path.utf8ByteSize then .error .nameTooLong
  else
    tree.follow followLast maxLinks (if DiskPath.isAbsolute path then [] else tree.working)
      (Text.split '/' path)

def find (tree : FileTree) (followLast : Bool) (path : String) :
    Except OsError (List String × Entry) :=
  match tree.resolve followLast path with
  | .ok (.found names entry) => .ok (names, entry)
  | .ok (.absent _ _) => .error .notFound
  | .error error => .error error

/-- The absolute path of the names that lead to a place. -/
def absolutePath (names : List String) : String := "/" ++ "/".intercalate names

def put (tree : FileTree) (directory : List String) (name : String) (entry : Entry) : FileTree :=
  { tree with root := tree.root.changeMembers (Entry.putMember name entry) directory }

def drop (tree : FileTree) (directory : List String) (name : String) : FileTree :=
  { tree with root := tree.root.changeMembers (·.filter (·.1 ≠ name)) directory }

/-- The tree with another entry at a place that names lead to. -/
def replaceAt (tree : FileTree) (names : List String) (entry : Entry) : FileTree :=
  match names.getLast? with
  | some name => tree.put names.dropLast name entry
  | none => { tree with root := entry }

end FileTree
end BootSnapshot
