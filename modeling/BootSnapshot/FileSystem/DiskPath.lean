import BootSnapshot.Component.Path

set_option autoImplicit false

namespace BootSnapshot.DiskPath

/-- A path that starts with a slash starts at the root, and any other path at the working directory.
-/
def isAbsolute (path : String) : Bool := path.toList.head? = some '/'

/-- The characters of a path followed by a path from there on. -/
def joinChars (base rest : List Char) : List Char :=
  if rest.head? = some '/' ∨ base = [] then rest
  else if base.getLast? = some '/' then base ++ rest
  else base ++ '/' :: rest

/-- What a path means from a base on: an absolute path does not need the base. -/
def join (base rest : String) : String := String.ofList (joinChars base.toList rest.toList)

def lastName? (path : String) : Option (List Char) :=
  ((ComponentPath.fileParts path.toList).getLast?).filter fun part =>
    part ≠ ['/'] && part ≠ ['.'] && part ≠ ['.', '.']

/-- What follows the last point of a name that has something before that point. -/
def nameExtension? (name : List Char) : Option (List Char) :=
  match (Text.pieces '.' name).reverse with
  | ending :: front => if front = [] ∨ front = [[]] then none else some ending
  | [] => none

def extension? (path : String) : Option String :=
  ((lastName? path).bind nameExtension?).map String.ofList

/-- The stretches of a path up to the last that leads anywhere; the first one always stays. -/
def trimStretches : List (List Char) → List (List Char)
  | [] => []
  | first :: rest => first :: (rest.reverse.dropWhile (! ComponentPath.isStep ·)).reverse

/-- The path without its last part; the root and the empty path have none. -/
def parent? (path : String) : Option String :=
  match trimStretches (Text.pieces '/' path.toList) with
  | [] => none
  | [first] => if first = [] then none else some ""
  | stretches =>
    match trimStretches stretches.dropLast with
    | [[]] => some "/"
    | kept => some (String.ofList (['/'].intercalate kept))

def samePath (a b : String) : Bool :=
  ComponentPath.fileParts a.toList = ComponentPath.fileParts b.toList

end BootSnapshot.DiskPath
