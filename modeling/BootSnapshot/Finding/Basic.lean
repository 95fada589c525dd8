import BootSnapshot.Document
import BootSnapshot.Text.Quoted

set_option autoImplicit false

namespace BootSnapshot

inductive Severity where
  | error
  | warning
deriving DecidableEq

def Severity.name : Severity → String
  | .error => "error"
  | .warning => "warning"

inductive Check where
  | pathLength
  | structural
  | duplicate
  | dependency
deriving DecidableEq

namespace Check

def all : List Check := [.pathLength, .structural, .duplicate, .dependency]

def name : Check → String
  | .pathLength => "path-length"
  | .structural => "structure"
  | .duplicate => "duplicate"
  | .dependency => "dependency"

end Check

/-- The longest path that the boot loader handles, in characters. -/
def maxPathLength : Nat := 128

/-- What can be wrong with a document. The severity of a finding, the check it belongs to, its place
in the document and its message follow from the cause. -/
inductive Finding where
  | sectionMissing (key : String)
  | subsectionMissing (key subsection : String)
  | sectionNotDictionary (key : String) (found : Kind)
  | listNotArray (target : Target) (found : Kind)
  /-- The value of a field, or a path put together from two fields, is too long. -/
  | pathTooLong (path : Path) (value : String)
  /-- The items at ascending positions are the same component. -/
  | duplicate (target : Target) (key : String) (indices : List Nat)
  /-- The kext at a position needs another one that is missing or disabled. -/
  | requirementMissing (index : Nat) (subject required : String)
  /-- The kext at a position needs another one that is loaded after it. -/
  | requirementLate (index : Nat) (subject required : String)
deriving DecidableEq

namespace Finding

def severity : Finding → Severity
  | .subsectionMissing _ _ => .warning
  | .requirementLate _ _ _ => .warning
  | _ => .error

def check : Finding → Check
  | .sectionMissing _ => .structural
  | .subsectionMissing _ _ => .structural
  | .sectionNotDictionary _ _ => .structural
  | .listNotArray _ _ => .structural
  | .pathTooLong _ _ => .pathLength
  | .duplicate _ _ _ => .duplicate
  | .requirementMissing _ _ _ => .dependency
  | .requirementLate _ _ _ => .dependency

/-- The place in the document that a finding is about. -/
def path : Finding → Path
  | .sectionMissing key => [.key key]
  | .subsectionMissing key subsection => [.key key, .key subsection]
  | .sectionNotDictionary key _ => [.key key]
  | .listNotArray target _ => target.path
  | .pathTooLong path _ => path
  | .duplicate target _ indices => target.path ++ [.index (indices.headD 0)]
  | .requirementMissing index _ _ => Target.kernelAdd.path ++ [.index index]
  | .requirementLate index _ _ => Target.kernelAdd.path ++ [.index index]

def message : Finding → String
  | .sectionMissing key => "missing required section " ++ key
  | .subsectionMissing key subsection =>
    "missing recommended subsection " ++ key ++ "." ++ subsection
  | .sectionNotDictionary key found => key ++ " must be a dictionary, found " ++ found.name
  | .listNotArray target found => target.display ++ " must be an array, found " ++ found.name
  | .pathTooLong _ value =>
    Text.quoted value ++ " is " ++ Decimal.natText value.length ++ " characters long (maximum " ++
      Decimal.natText maxPathLength ++ ")"
  | .duplicate target key indices =>
    key ++ " appears " ++ Decimal.natText indices.length ++ " times in " ++ target.display ++
      " (indices " ++ ", ".intercalate (indices.map Decimal.natText) ++ ")"
  | .requirementMissing _ subject required =>
    subject ++ " requires " ++ required ++ ", not present/enabled"
  | .requirementLate _ subject required => subject ++ " should load after " ++ required

/-- The finding on one line: its check, its place and its message. -/
def display (finding : Finding) : String :=
  "[" ++ finding.check.name ++ "] " ++ finding.path.display ++ ": " ++ finding.message

end Finding
end BootSnapshot
