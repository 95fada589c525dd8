import BootSnapshot.Merge.ChangeLog
import BootSnapshot.Merge.DefaultEntry

/-!
# Reconciling a list with what is on disk

An additive merge keeps the items whose components are on disk and the items it does not recognize,
in their order; it brings the paths of kept kexts up to date and appends items for new components.
A clean merge drops every item and builds the list from the components alone.
-/

set_option autoImplicit false

namespace BootSnapshot.Merge

inductive Mode where
  | additive
  | clean
deriving DecidableEq

def Mode.name : Mode → String
  | .additive => "additive"
  | .clean => "clean"

abbrev Wanted := List (String × Component)

namespace Wanted

/-- Of components with one identity the first, unless it was seen before. -/
def firsts (seen : List String) : Wanted → Wanted
  | [] => []
  | (path, component) :: rest =>
    if path ∈ seen then firsts seen rest else (path, component) :: firsts (path :: seen) rest

/-- The components of a list with distinct identities. -/
def ofComponents (identity : KextIdentity) (components : List Component) : Wanted :=
  firsts [] (components.map fun component => (component.identifyingPath identity, component))

def find? (wanted : Wanted) (path : String) : Option Component := wanted.lookup path

end Wanted

/-- How the items of a list are told apart. -/
def identityFor (target : Target) (existing : List Node) (discovered : List Component) :
    KextIdentity :=
  if target = .kernelAdd then .ofSides existing discovered else .byBundle

/-- Whether an additive merge drops an item, and what identifies the item. -/
def stale? (target : Target) (identity : KextIdentity) (wanted : Wanted) (node : Node) :
    Option String :=
  match ExistingEntry.project? target 0 node identity with
  | some entry =>
    if (wanted.find? entry.identifyingPath).isNone then some entry.identifyingPath else none
  | none => none

def kept (target : Target) (identity : KextIdentity) (wanted : Wanted) (existing : List Node) :
    List Node :=
  existing.filter fun node => (stale? target identity wanted node).isNone

/-- The removals of an additive merge among items that begin at a position. -/
def staleChanges (target : Target) (identity : KextIdentity) (wanted : Wanted) (index : Nat) :
    List Node → ChangeLog
  | [] => []
  | node :: rest =>
    match stale? target identity wanted node with
    | some path =>
      ⟨target, .staleRemoved, path, index⟩ :: staleChanges target identity wanted (index + 1) rest
    | none => staleChanges target identity wanted (index + 1) rest

/-- What a removal by a clean merge names: the item's identity, or else its kind. -/
def removedName (target : Target) (identity : KextIdentity) (node : Node) : String :=
  match ExistingEntry.project? target 0 node identity with
  | some entry => entry.identifyingPath
  | none => node.kind.name

/-- The removals of a clean merge among items that begin at a position. -/
def cleanChanges (target : Target) (identity : KextIdentity) (index : Nat) :
    List Node → ChangeLog
  | [] => []
  | node :: rest =>
    ⟨target, .removed, removedName target identity node, index⟩ ::
      cleanChanges target identity (index + 1) rest

def updateField (index : Nat) (path field new : String) (fields : Dictionary Node) :
    Dictionary Node × ChangeLog :=
  let old := fields.textOrEmpty field
  if old = new then (fields, [])
  else
    (fields.insert field (.ofText new),
      [⟨.kernelAdd, .pathUpdated field old new, path, index⟩])

/-- Brings the paths of a kept kext up to date with the component of its identity. -/
def updateKext (identity : KextIdentity) (wanted : Wanted) (index : Nat) (node : Node) :
    Node × ChangeLog :=
  match node with
  | .dictionary fields =>
    let path := identity.ofDictionary fields
    match wanted.find? path with
    | some component =>
      let (fields, first) :=
        updateField index path Field.executablePath (component.executablePath.getD "") fields
      let (fields, second) :=
        updateField index path Field.plistPath (component.infoPath.getD "") fields
      (.dictionary fields, first ++ second)
    | none => (node, [])
  | _ => (node, [])

/-- Brings the paths of kept kexts up to date; the first of them is at the given position. -/
def updateKexts (identity : KextIdentity) (wanted : Wanted) (index : Nat) :
    List Node → List Node × ChangeLog
  | [] => ([], [])
  | node :: rest =>
    let (node, changes) := updateKext identity wanted index node
    let (others, later) := updateKexts identity wanted (index + 1) rest
    (node :: others, changes ++ later)

/-- What identifies the kept items that are recognized. -/
def matched (target : Target) (identity : KextIdentity) (items : List Node) : List String :=
  items.filterMap fun node =>
    (ExistingEntry.project? target 0 node identity).map ExistingEntry.identifyingPath

def missing (wanted : Wanted) (present : List String) : Wanted :=
  wanted.filter fun (path, _) => path ∉ present

/-- The additions of a merge; the first of them is at the given position. -/
def addedChanges (target : Target) (index : Nat) : Wanted → ChangeLog
  | [] => []
  | (path, _) :: rest => ⟨target, .added, path, index⟩ :: addedChanges target (index + 1) rest

/-- A list and how it came about. -/
structure Outcome where
  items : List Node
  changes : ChangeLog

def Outcome.append (target : Target) (bare : Bool) (kept : List Node) (removals : ChangeLog)
    (added : Wanted) : Outcome where
  items := kept ++ added.map fun (_, component) => defaultEntry component bare
  changes := removals ++ addedChanges target kept.length added

def reconcile (target : Target) (existing : List Node) (discovered : List Component)
    (mode : Mode) : Outcome :=
  let identity := identityFor target existing discovered
  let wanted := Wanted.ofComponents identity discovered
  let bare := target = .uefiDrivers && holdsBarePaths existing
  match mode with
  | .clean => .append target bare [] (cleanChanges target identity 0 existing) wanted
  | .additive =>
    let items := kept target identity wanted existing
    let removals := staleChanges target identity wanted 0 existing
    let added := missing wanted (matched target identity items)
    if target = .kernelAdd then
      let (items, updates) := updateKexts identity wanted 0 items
      .append target bare items (removals ++ updates) added
    else .append target bare items removals added

end BootSnapshot.Merge
