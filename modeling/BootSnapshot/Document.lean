import BootSnapshot.Component.Category
import BootSnapshot.PropertyList.Codec
import BootSnapshot.Tree.Node

set_option autoImplicit false

namespace BootSnapshot

/-- The lists of components, one for every category. -/
inductive Target where
  | acpiAdd
  | kernelAdd
  | uefiDrivers
  | miscTools
deriving DecidableEq

namespace Target

def all : List Target := [.acpiAdd, .kernelAdd, .uefiDrivers, .miscTools]

def ofCategory : Category → Target
  | .acpi => .acpiAdd
  | .kext => .kernelAdd
  | .driver => .uefiDrivers
  | .tool => .miscTools

def category : Target → Category
  | .acpiAdd => .acpi
  | .kernelAdd => .kext
  | .uefiDrivers => .driver
  | .miscTools => .tool

def sectionKey : Target → String
  | .acpiAdd => "ACPI"
  | .kernelAdd => "Kernel"
  | .uefiDrivers => "UEFI"
  | .miscTools => "Misc"

def listKey : Target → String
  | .acpiAdd => "Add"
  | .kernelAdd => "Add"
  | .uefiDrivers => "Drivers"
  | .miscTools => "Tools"

def path (target : Target) : Path := [.key target.sectionKey, .key target.listKey]

def display (target : Target) : String := target.sectionKey ++ "." ++ target.listKey

end Target

/-- A property tree whose root is a dictionary. -/
structure Document where
  root : Dictionary Node

namespace Document

def requiredKeys : List String :=
  ["ACPI", "Booter", "DeviceProperties", "Kernel", "Misc", "NVRAM", "PlatformInfo", "UEFI"]

def toNode (document : Document) : Node := .dictionary document.root

def ofNode : Node → Except PropertyList.ParseError Document
  | .dictionary root => .ok ⟨root⟩
  | _ => .error .rootNotDictionary

/-- The document in the bytes of a property list; `source` names it in errors. -/
def read (source : String) (bytes : List UInt8) : Except PropertyList.ParseError Document :=
  (PropertyList.read source bytes).bind ofNode

def write (format : PropertyList.Format) (document : Document) : List UInt8 :=
  PropertyList.write format document.toNode

def get? (document : Document) (key : String) : Option Node := document.root.get? key

def missingKeys (document : Document) : List String :=
  requiredKeys.filter (! document.root.contains ·)

/-- What is under the key of a list, if its section is a dictionary. -/
def targetNode? (document : Document) (target : Target) : Option Node :=
  ((document.get? target.sectionKey).bind Node.dictionary?).bind (·.get? target.listKey)

/-- The items of a list, if its section and the list itself are of the right kinds. -/
def items? (document : Document) (target : Target) : Option (List Node) :=
  (document.targetNode? target).bind Node.sequence?

/-- The node that a path leads to. The document itself is not a node: the empty path leads
nowhere, and a path that begins with an index meets a dictionary. -/
def locate (document : Document) (path : Path) : Except TreeError Node :=
  match path with
  | [] => .error (.notFound [])
  | .index _ :: _ => .error (.typeMismatch path .array .dictionary)
  | .key name :: rest =>
    match document.root.get? name with
    | none => .error (.notFound [.key name])
    | some child =>
      match child.locate rest with
      | .ok node => .ok node
      | .error error => .error (error.below [.key name])

/-- The document with another node at a path. -/
def replace (document : Document) (path : Path) (replacement : Node) : Except TreeError Document :=
  match path with
  | [] => .error (.notFound [])
  | .index _ :: _ => .error (.typeMismatch path .array .dictionary)
  | .key name :: rest =>
    match document.root.get? name with
    | none => .error (.notFound [.key name])
    | some child =>
      match child.replace rest replacement with
      | .ok changed => .ok ⟨document.root.insert name changed⟩
      | .error error => .error (error.below [.key name])

/-- A document changed at the node that a path leads to. -/
def editAt {β : Type} (document : Document) (path : Path)
    (edit : Node → Except TreeError (Node × β)) : Except TreeError (Document × β) :=
  match document.locate path with
  | .error error => .error error
  | .ok place =>
    match edit place with
    | .error error => .error error
    | .ok (changed, result) => (document.replace path changed).map (·, result)

end Document
end BootSnapshot
