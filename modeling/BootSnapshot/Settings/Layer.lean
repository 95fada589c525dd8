import BootSnapshot.Json.Value
import BootSnapshot.Settings.KeyPath
import BootSnapshot.Text.Case

set_option autoImplicit false

namespace BootSnapshot.Settings

/-- The fields of a layer in any order. -/
abbrev Layer := List (String × Json)

def membersOf : Option Json → Layer
  | some (.object members) => members
  | _ => []

mutual

/-- A layer with a value laid over what stands under a key. -/
def layValue (base : Layer) (key : String) : Json → Layer
  | .object [] =>
    if (Json.member? key base).isSome then base else Json.putMember key (.object []) base
  | .object ((name, value) :: rest) =>
    let joined := layValue (membersOf (Json.member? key base)) (Text.lowercase name) value
    Json.putMember key (.object (layMembers joined rest)) base
  | value => Json.putMember key value base

def layMembers (base : Layer) : List (String × Json) → Layer
  | [] => base
  | (name, value) :: rest => layMembers (layValue base (Text.lowercase name) value) rest

end

/-- How many items are missing in front of a place in an array of some length, and where the place
is when they are there. -/
def locateItem (length : Nat) : Int → Nat × Nat
  | .ofNat place => (0, place)
  | .negSucc before =>
    if before < length then (0, length - 1 - before) else (before + 1 - length, 0)

/-- An array with so many items missing in front and, up to a place, behind. -/
def padItems (items : List Json) (missing place : Nat) : List Json :=
  let front := List.replicate missing Json.null ++ items
  front ++ List.replicate (place + 1 - front.length) Json.null

def itemsOf : Json → List Json
  | .array items => items
  | _ => []

/-- A value in which another one is laid over what a path of keys leads to. What is on the way and
not of the right kind is replaced, and an item is replaced in any case. -/
def layAt (base : Json) (path : List KeyStep) (value : Json) : Json :=
  match path with
  | [] => value
  | [.member name] => .object (layValue (membersOf (some base)) (Text.lowercase name) value)
  | .member name :: rest =>
    let members := membersOf (some base)
    let key := Text.lowercase name
    let inner := layAt ((Json.member? key members).getD .null) rest value
    .object (Json.putMember key inner members)
  | .item place :: rest =>
    let items := itemsOf base
    let (missing, place) := locateItem items.length place
    let padded := padItems items missing place
    .array (padded.set place (layAt (padded.getD place .null) rest value))

/-- One layer over another. The keys of the upper one are paths. Objects under one key are joined,
any other value takes the place of what was there, and keys count without regard to case. -/
def lay (base upper : Layer) : Layer :=
  upper.foldl (fun base (name, value) =>
    membersOf (some (layAt (.object base) (KeyPath.ofText name) value))) base

end BootSnapshot.Settings
