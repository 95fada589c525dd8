import BootSnapshot.Document
import BootSnapshot.Text.Quoted

set_option autoImplicit false

namespace BootSnapshot.Merge

inductive ChangeKind where
  /-- Dropped by a rebuild. -/
  | removed
  /-- Dropped because the component is not on disk any more. -/
  | staleRemoved
  /-- Appended for a new component. -/
  | added
  /-- A path of an item that stays was brought up to date. -/
  | pathUpdated (field old new : String)
deriving DecidableEq

/-- One change of a list. The index of a removal is the position before the merge, that of other
changes the position after it. -/
structure Change where
  target : Target
  kind : ChangeKind
  identifyingPath : String
  index : Nat
deriving DecidableEq

namespace Change

/-- The list and the position that a change is about. -/
def place (change : Change) : String :=
  change.target.display ++ "[" ++ Decimal.natText change.index ++ "]"

def display (change : Change) : String :=
  let subject := change.place ++ " " ++ change.identifyingPath
  match change.kind with
  | .removed => "- " ++ subject ++ " (clean)"
  | .staleRemoved => "- " ++ subject ++ " (missing on disk)"
  | .added => "+ " ++ subject
  | .pathUpdated field old new =>
    "~ " ++ subject ++ ": " ++ field ++ " " ++ Text.quoted old ++ " -> " ++ Text.quoted new

end Change

/-- The changes of a merge, in order. -/
abbrev ChangeLog := List Change

namespace ChangeLog

structure Counts where
  removed : Nat
  staleRemoved : Nat
  added : Nat
  pathUpdated : Nat
deriving DecidableEq

def isUpdate : ChangeKind → Bool
  | .pathUpdated _ _ _ => true
  | _ => false

def counts (log : ChangeLog) : Counts where
  removed := log.countP fun change => change.kind = .removed
  staleRemoved := log.countP fun change => change.kind = .staleRemoved
  added := log.countP fun change => change.kind = .added
  pathUpdated := log.countP fun change => isUpdate change.kind

def ofTarget (log : ChangeLog) (target : Target) : ChangeLog := log.filter (·.target = target)

def display (log : ChangeLog) : String :=
  if log.isEmpty then "No changes" else Text.lines (log.map Change.display)

end ChangeLog
end BootSnapshot.Merge
