import BootSnapshot.Merge.Identity

set_option autoImplicit false

namespace BootSnapshot.Merge

/-- A list of drivers is of the old form if its first item is a bare path. -/
def holdsBarePaths (items : List Node) : Bool := (items.head?.bind Node.text?).isSome

/-- The fields of a new item; `path` is in normal spelling. -/
def defaultFields (component : Component) (path : String) : List (String × Node) :=
  let comment := Node.ofText (ComponentPath.fileName path)
  match component.category with
  | .acpi =>
    [("Comment", comment),
      (Field.enabled, .ofBool true),
      (Field.path, .ofText path)]
  | .kext =>
    [("Arch", .ofText "Any"),
      (Field.bundlePath, .ofText path),
      ("Comment", comment),
      (Field.enabled, .ofBool true),
      (Field.executablePath, .ofText (component.executablePath.getD "")),
      ("MaxKernel", .ofText ""),
      ("MinKernel", .ofText ""),
      (Field.plistPath, .ofText (component.infoPath.getD ""))]
  | .driver =>
    [("Arguments", .ofText ""),
      ("Comment", comment),
      (Field.enabled, .ofBool true),
      ("LoadEarly", .ofBool false),
      (Field.path, .ofText path)]
  | .tool =>
    [("Arguments", .ofText ""),
      ("Auxiliary", .ofBool true),
      ("Comment", comment),
      (Field.enabled, .ofBool true),
      ("Flavour", .ofText "Auto"),
      ("FullNvramAccess", .ofBool false),
      (Field.path, .ofText path),
      ("RealPath", .ofBool false),
      ("TextMode", .ofBool false)]

/-- The item for a new component; `bare` asks for the old form of drivers. -/
def defaultEntry (component : Component) (bare : Bool) : Node :=
  let path := ComponentPath.normalize component.relativePath
  if bare ∧ component.category = .driver then .ofText path
  else .dictionary (.ofPairs (defaultFields component path))

end BootSnapshot.Merge
