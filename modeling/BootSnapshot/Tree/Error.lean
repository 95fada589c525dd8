import BootSnapshot.Tree.Path

set_option autoImplicit false

namespace BootSnapshot

/-- The kinds of nodes, named as editors of property lists name them. -/
inductive Kind where
  | dictionary
  | array
  | boolean
  | integer
  | real
  | string
  | data
deriving DecidableEq

def Kind.name : Kind → String
  | .dictionary => "Dictionary"
  | .array => "Array"
  | .boolean => "Boolean"
  | .integer => "Integer"
  | .real => "Real"
  | .string => "String"
  | .data => "Data"

/-- Why a tree cannot be read or changed as asked. -/
inductive TreeError where
  | notFound (path : Path)
  | typeMismatch (path : Path) (expected found : Kind)
  | indexOutOfBounds (index length : Nat)
  | duplicateKey (key : String)
  | invalidPath (text : String)
deriving DecidableEq

namespace TreeError

def message : TreeError → String
  | .notFound path => "Node not found: " ++ path.display
  | .typeMismatch path expected found =>
    "Type mismatch at " ++ path.display ++ ": expected " ++ expected.name ++ ", found " ++
      found.name
  | .indexOutOfBounds index length =>
    "Index " ++ Decimal.natText index ++ " out of bounds (len " ++ Decimal.natText length ++ ")"
  | .duplicateKey key => "Duplicate key: " ++ key
  | .invalidPath text => "Invalid node path: " ++ text

/-- The error of a single step, told of the whole path walked so far. -/
def relocate (walked : Path) : TreeError → TreeError
  | .notFound _ => .notFound walked
  | .typeMismatch _ expected found => .typeMismatch walked expected found
  | other => other

/-- The error of a walk that began below the root, told from the root. -/
def below (start : Path) : TreeError → TreeError
  | .notFound path => .notFound (start ++ path)
  | .typeMismatch path expected found => .typeMismatch (start ++ path) expected found
  | other => other

end TreeError

def Path.read (text : String) : Except TreeError Path :=
  let trimmed := Text.trimChars text.toList
  match Path.readTrimmed? trimmed with
  | some path => .ok path
  | none => .error (.invalidPath (String.ofList trimmed))

end BootSnapshot
