import BootSnapshot.Component.Basic
import BootSnapshot.Component.Path
import BootSnapshot.Document

set_option autoImplicit false

namespace BootSnapshot

namespace Field

def path : String := "Path"
def bundlePath : String := "BundlePath"
def executablePath : String := "ExecutablePath"
def plistPath : String := "PlistPath"
def enabled : String := "Enabled"

end Field

/-- The bundle paths, in normal spelling, that are not enough to tell kexts apart, because several
kexts on one side of a merge have them. To these the path of the executable is added, or of the
descriptor for kexts without code. -/
structure KextIdentity where
  shared : List String

namespace KextIdentity

def byBundle : KextIdentity := ⟨[]⟩

def repeated (paths : List String) : List String := paths.filter fun path => 1 < paths.count path

/-- The bundle path of an item of the list of kexts, in normal spelling. -/
def bundleOf? (node : Node) : Option String :=
  (node.dictionary?.bind (·.text? Field.bundlePath)).map ComponentPath.normalize

/-- Bundle paths that occur twice among the items, or twice among the components, are shared. -/
def ofSides (existing : List Node) (discovered : List Component) : KextIdentity :=
  ⟨repeated (existing.filterMap bundleOf?) ++
    repeated (discovered.map fun component => ComponentPath.normalize component.relativePath)⟩

def isShared (identity : KextIdentity) (bundle : String) : Bool := identity.shared.contains bundle

/-- The bundle path with the executable, or with the descriptor if there is no executable. -/
def qualified (bundle executable plist : String) : String :=
  ComponentPath.normalize (bundle ++ "/" ++ if executable = "" then plist else executable)

/-- What identifies the kext of the given paths. -/
def ofFields (identity : KextIdentity) (bundle executable plist : String) : String :=
  let bundle := ComponentPath.normalize bundle
  if identity.isShared bundle then qualified bundle executable plist else bundle

def ofComponent (identity : KextIdentity) (component : Component) : String :=
  identity.ofFields component.relativePath (component.executablePath.getD "")
    (component.infoPath.getD "")

/-- What identifies the kext that a dictionary describes; absent paths count as empty. -/
def ofDictionary (identity : KextIdentity) (fields : Dictionary Node) : String :=
  identity.ofFields (fields.textOrEmpty Field.bundlePath) (fields.textOrEmpty Field.executablePath)
    (fields.textOrEmpty Field.plistPath)

end KextIdentity

/-- What identifies a component in the list of its category. -/
def Component.identifyingPath (component : Component) (identity : KextIdentity) : String :=
  match component.category with
  | .kext => identity.ofComponent component
  | _ => ComponentPath.normalize component.relativePath

/-- The form in which a list holds an item. -/
inductive StoredForm where
  | dictionary (fields : Dictionary Node)
  /-- Old lists of drivers hold bare paths. -/
  | barePath (path : String)

/-- An item of a list that a merge recognizes. -/
structure ExistingEntry where
  form : StoredForm
  identifyingPath : String
  index : Nat

namespace ExistingEntry

/-- What identifies the item that a dictionary describes, if its path is a text. -/
def dictionaryPath? (target : Target) (identity : KextIdentity) (fields : Dictionary Node) :
    Option String :=
  match target with
  | .kernelAdd =>
    match fields.text? Field.bundlePath with
    | some bundle =>
      if ComponentPath.normalize bundle = "" then none else some (identity.ofDictionary fields)
    | none => none
  | _ => (fields.text? Field.path).map ComponentPath.normalize

/-- The form of an item and what identifies it; nothing for an item of no known form. -/
def form? (target : Target) (identity : KextIdentity) (node : Node) :
    Option (StoredForm × String) :=
  match node with
  | .dictionary fields => (dictionaryPath? target identity fields).map (.dictionary fields, ·)
  | .scalar (.string path) =>
    if target = .uefiDrivers then some (.barePath path, ComponentPath.normalize path) else none
  | _ => none

/-- The entry that an item is; nothing if its form is not known or its path is missing or empty. -/
def project? (target : Target) (index : Nat) (node : Node) (identity : KextIdentity) :
    Option ExistingEntry :=
  match form? target identity node with
  | some (form, path) => if path = "" then none else some ⟨form, path, index⟩
  | none => none

def dictionary? (entry : ExistingEntry) : Option (Dictionary Node) :=
  match entry.form with
  | .dictionary fields => some fields
  | .barePath _ => none

def barePath? (entry : ExistingEntry) : Option String :=
  match entry.form with
  | .dictionary _ => none
  | .barePath path => some path

/-- Whether the entry takes part in loading: dictionaries say so, bare paths always do. -/
def isEnabled (entry : ExistingEntry) : Bool :=
  match entry.form with
  | .dictionary fields => (fields.bool? Field.enabled).getD false
  | .barePath _ => true

end ExistingEntry
end BootSnapshot
