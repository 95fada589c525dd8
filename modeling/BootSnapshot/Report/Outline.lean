import BootSnapshot.Bytes.Hex
import BootSnapshot.Json.Value
import BootSnapshot.Text.Pieces
import BootSnapshot.Text.Quoted
import BootSnapshot.Tree.Node

set_option autoImplicit false

namespace BootSnapshot.Report

def scalarText : Scalar → String
  | .boolean value => if value then "true" else "false"
  | .integer value => Decimal.intText value.toInt
  | .real value => String.ofList (Decimal.plain.render value)
  | .string text => Text.quoted text
  | .data bytes => "<" ++ Bytes.hexText bytes ++ ">"

def indent (depth : Nat) : String := String.ofList (List.replicate (2 * depth) ' ')

mutual

/-- The line of a labelled node and those of what it holds. -/
def nodeLines (depth : Nat) (label : String) : Node → List String
  | .scalar content => [indent depth ++ label ++ ": " ++ scalarText content]
  | .dictionary ⟨entries⟩ =>
    (indent depth ++ label ++ ": <Dictionary>") :: entryLines (depth + 1) entries
  | .sequence items => (indent depth ++ label ++ ": <Array>") :: itemLines (depth + 1) 0 items

def entryLines (depth : Nat) : List (String × Node) → List String
  | [] => []
  | (key, child) :: rest => nodeLines depth key child ++ entryLines depth rest

def itemLines (depth position : Nat) : List Node → List String
  | [] => []
  | item :: rest =>
    nodeLines depth ("[" ++ Decimal.natText position ++ "]") item ++
      itemLines depth (position + 1) rest

end

def childLines : Node → List String
  | .dictionary ⟨entries⟩ => entryLines 1 entries
  | .sequence items => itemLines 1 0 items
  | .scalar _ => []

def outline (path : Path) (node : Node) : String :=
  let label := if path = Path.root then "" else path.display ++ " "
  match node with
  | .scalar content => label ++ "= " ++ scalarText content
  | _ =>
    Text.lines ((label ++ "<" ++ node.kind.name ++ ", " ++ Decimal.natText node.childCount ++
      " items>") :: childLines node)

def scalarJson : Scalar → Json
  | .boolean value => .bool value
  | .integer value => .integer value.toInt
  | .real value => if value.isFinite then .real value else .null
  | .string text => .text text
  | .data bytes => .text (Bytes.hexText bytes)

mutual

/-- Data is shown in hexadecimal digits, and a number that is not finite as null. -/
def nodeJson : Node → Json
  | .dictionary ⟨entries⟩ => .object (entriesJson entries)
  | .sequence items => .array (itemsJson items)
  | .scalar content => scalarJson content

def entriesJson : List (String × Node) → List (String × Json)
  | [] => []
  | (key, child) :: rest => (key, nodeJson child) :: entriesJson rest

def itemsJson : List Node → List Json
  | [] => []
  | item :: rest => nodeJson item :: itemsJson rest

end
end BootSnapshot.Report
