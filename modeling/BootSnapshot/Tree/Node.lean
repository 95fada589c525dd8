import BootSnapshot.Decimal.Binary64
import BootSnapshot.Tree.Dictionary

set_option autoImplicit false

namespace BootSnapshot

inductive Scalar where
  | boolean (value : Bool)
  | integer (value : Int64)
  | real (value : Decimal.Binary64)
  | string (text : String)
  | data (bytes : List UInt8)
deriving DecidableEq

/-- A node never changes its kind: scalars take other content of their kind, and containers other
children. -/
inductive Node where
  | dictionary (children : Dictionary Node)
  | sequence (items : List Node)
  | scalar (content : Scalar)

def Scalar.kind : Scalar → Kind
  | .boolean _ => .boolean
  | .integer _ => .integer
  | .real _ => .real
  | .string _ => .string
  | .data _ => .data

namespace Node

def ofText (text : String) : Node := .scalar (.string text)

def ofBool (value : Bool) : Node := .scalar (.boolean value)

def emptyDictionary : Node := .dictionary .empty

def kind : Node → Kind
  | .dictionary _ => .dictionary
  | .sequence _ => .array
  | .scalar content => content.kind

def isContainer : Node → Bool
  | .scalar _ => false
  | _ => true

def dictionary? : Node → Option (Dictionary Node)
  | .dictionary children => some children
  | _ => none

def sequence? : Node → Option (List Node)
  | .sequence items => some items
  | _ => none

def scalar? : Node → Option Scalar
  | .scalar content => some content
  | _ => none

def text? : Node → Option String
  | .scalar (.string text) => some text
  | _ => none

def bool? : Node → Option Bool
  | .scalar (.boolean value) => some value
  | _ => none

def integer? : Node → Option Int64
  | .scalar (.integer value) => some value
  | _ => none

def childCount : Node → Nat
  | .dictionary children => children.size
  | .sequence items => items.length
  | .scalar _ => 0

/-- The error of a step that a node of this kind does not take. -/
def mismatch (node : Node) (step : Segment) : TreeError :=
  .typeMismatch [step] (match step with | .key _ => .dictionary | .index _ => .array) node.kind

def child (node : Node) (step : Segment) : Except TreeError Node :=
  match node, step with
  | .dictionary children, .key name =>
    match children.get? name with
    | some value => .ok value
    | none => .error (.notFound [step])
  | .sequence items, .index position =>
    match items[position]? with
    | some item => .ok item
    | none => .error (.notFound [step])
  | _, _ => .error (node.mismatch step)

/-- The node with another child at a step that leads to one. -/
def replaceChild (node : Node) (step : Segment) (replacement : Node) : Except TreeError Node :=
  match node, step with
  | .dictionary children, .key name =>
    if children.contains name then .ok (.dictionary (children.insert name replacement))
    else .error (.notFound [step])
  | .sequence items, .index position =>
    if position < items.length then .ok (.sequence (items.set position replacement))
    else .error (.notFound [step])
  | _, _ => .error (node.mismatch step)

/-- Follows a path from a node to which `walked` has led. -/
def locateFrom (walked : Path) (node : Node) : Path → Except TreeError Node
  | [] => .ok node
  | step :: rest =>
    match node.child step with
    | .ok next => locateFrom (walked ++ [step]) next rest
    | .error error => .error (error.relocate (walked ++ [step]))

/-- The node that a path leads to; a failure names the path up to the step that failed. -/
def locate (node : Node) (path : Path) : Except TreeError Node := locateFrom [] node path

/-- Replaces what a path leads to below a node to which `walked` has led. -/
def replaceFrom (walked : Path) (node : Node) (replacement : Node) : Path → Except TreeError Node
  | [] => .ok replacement
  | step :: rest =>
    match node.child step with
    | .ok next =>
      match replaceFrom (walked ++ [step]) next replacement rest with
      | .ok changed => node.replaceChild step changed
      | .error error => .error error
    | .error error => .error (error.relocate (walked ++ [step]))

def replace (node : Node) (path : Path) (replacement : Node) : Except TreeError Node :=
  replaceFrom [] node replacement path

/-- A scalar with other content of the same kind. -/
def setScalar (node : Node) (content : Scalar) : Except TreeError Node :=
  match node with
  | .scalar current =>
    if current.kind = content.kind then .ok (.scalar content)
    else .error (.typeMismatch [] content.kind current.kind)
  | _ => .error (.typeMismatch [] content.kind node.kind)

/-- A container with one more child, and the child that had the key before. A sequence takes the
child in at the position and moves later items up. -/
def insertChild (node : Node) (step : Segment) (added : Node) :
    Except TreeError (Node × Option Node) :=
  match node, step with
  | .dictionary children, .key name =>
    .ok (.dictionary (children.insert name added), children.get? name)
  | .sequence items, .index position =>
    if items.length < position then .error (.indexOutOfBounds position items.length)
    else .ok (.sequence (items.take position ++ added :: items.drop position), none)
  | _, _ => .error (node.mismatch step)

def removeChild (node : Node) (step : Segment) : Except TreeError (Node × Node) :=
  match node, step with
  | .dictionary children, .key name =>
    match children.get? name with
    | some value => .ok (.dictionary (children.remove name), value)
    | none => .error (.notFound [step])
  | .sequence items, .index position =>
    match items[position]? with
    | some item => .ok (.sequence (items.eraseIdx position), item)
    | none => .error (.notFound [step])
  | _, _ => .error (node.mismatch step)

/-- A tree changed at the node that a path leads to; the node's own errors are not relocated. -/
def editAt {β : Type} (node : Node) (path : Path) (edit : Node → Except TreeError (Node × β)) :
    Except TreeError (Node × β) :=
  match node.locate path with
  | .error error => .error error
  | .ok place =>
    match edit place with
    | .error error => .error error
    | .ok (changed, result) => (node.replace path changed).map (·, result)

end Node

namespace Dictionary

/-- The text under a key, if it holds one. -/
def text? (d : Dictionary Node) (key : String) : Option String := (d.get? key).bind Node.text?

/-- The text under a key; empty if it holds none. -/
def textOrEmpty (d : Dictionary Node) (key : String) : String := (d.text? key).getD ""

/-- The truth value under a key, if it holds one. -/
def bool? (d : Dictionary Node) (key : String) : Option Bool := (d.get? key).bind Node.bool?

end Dictionary
end BootSnapshot
