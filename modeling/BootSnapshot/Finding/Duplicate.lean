import BootSnapshot.Finding.Basic
import BootSnapshot.Merge.Identity

set_option autoImplicit false

namespace BootSnapshot.Finding

/-- Items of a list are the same component if their keys are equal: the normal spelling of the path,
which for kexts always includes the executable or the descriptor. Here the key may still be empty.
-/
def keyText? (target : Target) (item : Node) : Option String :=
  match item with
  | .dictionary fields =>
    match target with
    | .kernelAdd =>
      (fields.text? Field.bundlePath).map fun bundle =>
        KextIdentity.qualified (ComponentPath.normalize bundle)
          (fields.textOrEmpty Field.executablePath) (fields.textOrEmpty Field.plistPath)
    | _ => (fields.text? Field.path).map ComponentPath.normalize
  | .scalar (.string path) =>
    if target = .uefiDrivers then some (ComponentPath.normalize path) else none
  | _ => none

/-- What two items must share to be the same component; an item without a path has no key. -/
def duplicateKey? (target : Target) (item : Node) : Option String :=
  (keyText? target item).filter (· ≠ "")

/-- The positions of items by their keys, in the order of keys. -/
abbrev Groups := List (String × List Nat)

/-- The groups with one more position, which comes behind the others of its key. -/
def addPosition (key : String) (index : Nat) : Groups → Groups
  | [] => [(key, [index])]
  | (found, indices) :: rest =>
    if key < found then (key, [index]) :: (found, indices) :: rest
    else if key = found then (found, indices ++ [index]) :: rest
    else (found, indices) :: addPosition key index rest

/-- The groups with the item at a position; an item without a key is in no group. -/
def addItem (target : Target) (groups : Groups) (entry : Node × Nat) : Groups :=
  match duplicateKey? target entry.1 with
  | some key => addPosition key entry.2 groups
  | none => groups

def groupsOf (target : Target) (items : List Node) : Groups :=
  items.zipIdx.foldl (addItem target) []

/-- The findings about a list: one for every group of several items, the groups by the position of
their first item. -/
def duplicatesOf (target : Target) (items : List Node) : List Finding :=
  let groups := (groupsOf target items).filter fun group => 1 < group.2.length
  let sorted := groups.mergeSort fun one other => one.2.headD 0 ≤ other.2.headD 0
  sorted.map fun group => .duplicate target group.1 group.2

def duplicates (document : Document) : List Finding :=
  Target.all.flatMap fun target => duplicatesOf target ((document.items? target).getD [])

end BootSnapshot.Finding
