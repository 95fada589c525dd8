import BootSnapshot.Decimal.Natural

set_option autoImplicit false

namespace BootSnapshot.Settings

/-- A step leads from an object to the member of a name, or from an array to the item at a place,
which may be counted from the end. -/
inductive KeyStep where
  | member (name : String)
  | item (place : Int)
deriving DecidableEq

namespace KeyPath

/-- Whether a character may stand in a name of a path. -/
def isNameChar (c : Char) : Bool := c.isAlphanum || c = ' ' || c = '_' || c = '-'

def isBlank (c : Char) : Bool := c = ' ' || c = '\t' || c = '\n' || c = '\r'

/-- A place of 64 bits with blanks around it up to the closing bracket, and what follows that. -/
def readPlace? (cs : List Char) : Option (Int × List Char) :=
  let text := cs.takeWhile (· ≠ ']')
  match cs.drop text.length with
  | _ :: behind =>
    let word := ((text.dropWhile isBlank).reverse.dropWhile isBlank).reverse
    (Decimal.readSigned? word).map (·, behind)
  | [] => none

def readSteps? (cs : List Char) : Option (List KeyStep) :=
  match cs with
  | [] => some []
  | c :: rest =>
    if c = '.' then
      let name := rest.takeWhile isNameChar
      if name = [] then none
      else (readSteps? (rest.drop name.length)).map (.member (String.ofList name) :: ·)
    else if c = '[' then
      match readPlace? rest with
      | none => none
      | some (place, behind) =>
        if _shorter : behind.length ≤ rest.length then
          (readSteps? behind).map (.item place :: ·)
        else none
    else none
termination_by cs.length
decreasing_by
  · simp only [List.length_drop, List.length_cons]; omega
  · exact Nat.lt_succ_of_le _shorter

/-- A path is written as names with points between them and places in brackets. -/
def read? (text : String) : Option (List KeyStep) :=
  let cs := text.toList
  let name := cs.takeWhile isNameChar
  if name = [] then none
  else (readSteps? (cs.drop name.length)).map (.member (String.ofList name) :: ·)

/-- The steps of a text. One that is no written path is the name of one member. -/
def ofText (text : String) : List KeyStep := (read? text).getD [.member text]

end KeyPath
end BootSnapshot.Settings
