import BootSnapshot.Finding.Basic
import BootSnapshot.Merge.Identity

set_option autoImplicit false

namespace BootSnapshot.Finding

/-- A path inside a bundle, with the field that holds it; an empty one is none. -/
def insideBundle (place : Path) (bundle : String) (fields : Dictionary Node) (field : String) :
    List (Path × String) :=
  match fields.text? field with
  | some inner => if inner = "" then [] else [(place ++ [.key field], bundle ++ "/" ++ inner)]
  | none => []

/-- The paths of an item, each with the field that holds it. The paths of a kext lie in its bundle
and count together with the path of the bundle. -/
def heldPaths (target : Target) (place : Path) (item : Node) : List (Path × String) :=
  match item with
  | .dictionary fields =>
    match target with
    | .kernelAdd =>
      match fields.text? Field.bundlePath with
      | some bundle =>
        (place ++ [.key Field.bundlePath], bundle) ::
          (insideBundle place bundle fields Field.executablePath ++
            insideBundle place bundle fields Field.plistPath)
      | none => []
    | _ =>
      match fields.text? Field.path with
      | some path => [(place ++ [.key Field.path], path)]
      | none => []
  | .scalar (.string path) => if target = .uefiDrivers then [(place, path)] else []
  | _ => []

def longPathsFrom (target : Target) (index : Nat) : List Node → List Finding
  | [] => []
  | item :: rest =>
    ((heldPaths target (target.path ++ [.index index]) item).filter fun (_, value) =>
        maxPathLength < value.length).map (fun (path, value) => .pathTooLong path value) ++
      longPathsFrom target (index + 1) rest

/-- The paths of all lists that are too long, in document order. -/
def longPaths (document : Document) : List Finding :=
  Target.all.flatMap fun target => longPathsFrom target 0 ((document.items? target).getD [])

end BootSnapshot.Finding
