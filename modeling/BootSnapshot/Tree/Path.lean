import BootSnapshot.Decimal.Natural
import BootSnapshot.Text.Blank
import BootSnapshot.Text.Pieces

set_option autoImplicit false

namespace BootSnapshot

inductive Segment where
  | key (name : String)
  | index (position : Nat)
deriving DecidableEq

/-- The steps from the root of a tree to a node; none for the root itself. -/
abbrev Path := List Segment

namespace Path

def root : Path := []

/-- The written form of steps that follow others. -/
def writeSteps : Path → List Char
  | [] => []
  | .key name :: rest => '.' :: name.toList ++ writeSteps rest
  | .index position :: rest => '[' :: Decimal.natDigits position ++ ']' :: writeSteps rest

def rootName : List Char := ['<', 'r', 'o', 'o', 't', '>']

/-- A point before every key but a first one, and brackets around every index:
`Kernel.Add[3].BundlePath`. Nothing is escaped, so a path reads back only if its keys have no points
and brackets. -/
def write : Path → List Char
  | [] => rootName
  | .key name :: rest => name.toList ++ writeSteps rest
  | path => writeSteps path

def display (path : Path) : String := String.ofList path.write

/-- The indices of a run of brackets. `inside` holds, last one first, the characters since a bracket
that is still open. -/
def readIndices? (inside : Option (List Char)) : List Char → Option (List Nat)
  | [] => if inside.isNone then some [] else none
  | c :: rest =>
    match inside with
    | none => if c = '[' then readIndices? (some []) rest else none
    | some digits =>
      if c = ']' then
        match Decimal.readUnsigned? 10 Decimal.unsignedLimit digits.reverse,
          readIndices? none rest with
        | some position, some positions => some (position :: positions)
        | _, _ => none
      else readIndices? (some (c :: digits)) rest

/-- The steps of a stretch between points: a key, and the indices behind it. -/
def readPart? (part : List Char) : Option Path :=
  let name := part.takeWhile (· ≠ '[')
  match readIndices? none (part.dropWhile (· ≠ '[')) with
  | some positions =>
    if name.isEmpty then none
    else some (.key (String.ofList name) :: positions.map .index)
  | none => none

/-- The steps of all stretches between points. -/
def readParts? : List (List Char) → Option Path
  | [] => some []
  | part :: rest =>
    match readPart? part, readParts? rest with
    | some steps, some others => some (steps ++ others)
    | _, _ => none

/-- The path of a written form without white space at its ends. -/
def readTrimmed? (cs : List Char) : Option Path :=
  if cs = [] ∨ cs = rootName then some root else readParts? (Text.pieces '.' cs)

/-- The path without its last step; nothing at the root. -/
def parent? (path : Path) : Option Path := if path = [] then none else some path.dropLast

end Path
end BootSnapshot
