import BootSnapshot.Text.Canonical
import BootSnapshot.Text.Pieces

set_option autoImplicit false

namespace BootSnapshot.ComponentPath

def forwardSlash (c : Char) : Char := if c = '\\' then '/' else c

def isPart (part : List Char) : Bool := part ≠ [] && part ≠ ['.']

/-- Two spellings are the same path if they have the same parts. Either slash separates parts, and
empty parts and single points count for nothing. -/
def parts (path : List Char) : List (List Char) :=
  (Text.pieces '/' ((Text.Canonical.composed path).map forwardSlash)).filter isPart

def normalizeChars (path : List Char) : List Char := ['/'].intercalate (parts path)

/-- The parts, in composed form, with slashes between them. -/
def normalize (path : String) : String := String.ofList (normalizeChars path.toList)

/-- The last part of a path in normal spelling. -/
def fileName (path : String) : String :=
  String.ofList ((Text.pieces '/' path.toList).getLastD [])

/-- Whether a stretch of a path in a file system leads anywhere. -/
def isStep (part : List Char) : Bool := part ≠ [] && part ≠ ['.']

/-- The parts of a path in a file system. The root is a part of its own, and a point is one only at
the front of a path that does not start at the root. -/
def fileParts (path : List Char) : List (List Char) :=
  match Text.pieces '/' path with
  | [] :: rest => (if path = [] then [] else [['/']]) ++ rest.filter isStep
  | ['.'] :: rest => ['.'] :: rest.filter isStep
  | stretches => stretches.filter isStep

/-- The parts of a path below a base; nothing if the path is not below it. -/
def below? (base path : List Char) : Option (List (List Char)) :=
  if (fileParts base).isPrefixOf (fileParts path) then
    some ((fileParts path).drop (fileParts base).length)
  else none

/-- The normal spelling of what leads from a base to a path below it. -/
def relative? (base path : String) : Option String :=
  (below? base.toList path.toList).map fun rest =>
    String.ofList (normalizeChars (['/'].intercalate rest))

end BootSnapshot.ComponentPath
