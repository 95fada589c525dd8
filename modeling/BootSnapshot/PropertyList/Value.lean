import BootSnapshot.Tree.Node

set_option autoImplicit false

namespace BootSnapshot.PropertyList

/-- A whole number that fits 64 bits, with or without sign. -/
structure WideInteger where
  value : Int
  lower : -0x8000000000000000 ≤ value := by omega
  upper : value < 0x10000000000000000 := by omega
deriving DecidableEq

/-- The number, if it fits. -/
def WideInteger.ofInt? (value : Int) : Option WideInteger :=
  if inside : -0x8000000000000000 ≤ value ∧ value < 0x10000000000000000 then
    some ⟨value, inside.1, inside.2⟩
  else none

def WideInteger.ofInt64 (value : Int64) : WideInteger :=
  ⟨value.toInt, Int64.le_toInt value, by have := Int64.toInt_lt value; omega⟩

/-- A value as it is read. Of a moment only its presence is kept. -/
inductive Value where
  | dictionary (children : Dictionary Value)
  | array (items : List Value)
  | boolean (value : Bool)
  | integer (value : WideInteger)
  | real (value : Decimal.Binary64)
  | string (text : String)
  | data (bytes : List UInt8)
  | date
  | uid (number : Nat)

/-- The kinds of values that property trees do not have. -/
inductive ForeignKind where
  | date
  | uid
deriving DecidableEq

def ForeignKind.name : ForeignKind → String
  | .date => "Date"
  | .uid => "Uid"

inductive ParseError where
  | malformed (source : String)
  | unsupportedValue (kind : ForeignKind)
  | integerOutOfRange (value : Nat)
  | rootNotDictionary
deriving DecidableEq

/-- What is wrong with a list that cannot be read; told without the place in it. -/
def malformation : String := "not in the form of a property list"

def ParseError.message : ParseError → String
  | .malformed source => "Malformed property list " ++ source ++ ": " ++ malformation
  | .unsupportedValue kind => "Unsupported property list value: " ++ kind.name
  | .integerOutOfRange value =>
    "Integer " ++ Decimal.natText value ++ " does not fit a signed 64-bit value"
  | .rootNotDictionary => "Document root must be a dictionary"

namespace Value

mutual

def ofNode : Node → Value
  | .dictionary ⟨entries⟩ => .dictionary ⟨ofEntries entries⟩
  | .sequence items => .array (ofItems items)
  | .scalar (.boolean value) => .boolean value
  | .scalar (.integer value) => .integer (.ofInt64 value)
  | .scalar (.real value) => .real value
  | .scalar (.string text) => .string text
  | .scalar (.data bytes) => .data bytes

def ofEntries : List (String × Node) → List (String × Value)
  | [] => []
  | (key, child) :: rest => (key, ofNode child) :: ofEntries rest

def ofItems : List Node → List Value
  | [] => []
  | item :: rest => ofNode item :: ofItems rest

end

mutual

/-- The tree that a value stands for, or the error of the first part that stands for none. -/
def toNode : Value → Except ParseError Node
  | .dictionary ⟨entries⟩ =>
    match toEntries entries with
    | .ok children => .ok (.dictionary ⟨children⟩)
    | .error error => .error error
  | .array items =>
    match toItems items with
    | .ok nodes => .ok (.sequence nodes)
    | .error error => .error error
  | .boolean value => .ok (.scalar (.boolean value))
  | .integer number =>
    if number.value < 0x8000000000000000 then .ok (.scalar (.integer (Int64.ofInt number.value)))
    else .error (.integerOutOfRange number.value.toNat)
  | .real value => .ok (.scalar (.real value))
  | .string text => .ok (.scalar (.string text))
  | .data bytes => .ok (.scalar (.data bytes))
  | .date => .error (.unsupportedValue .date)
  | .uid _ => .error (.unsupportedValue .uid)

def toEntries : List (String × Value) → Except ParseError (List (String × Node))
  | [] => .ok []
  | (key, child) :: rest =>
    match toNode child with
    | .error error => .error error
    | .ok node =>
      match toEntries rest with
      | .error error => .error error
      | .ok others => .ok ((key, node) :: others)

def toItems : List Value → Except ParseError (List Node)
  | [] => .ok []
  | item :: rest =>
    match toNode item with
    | .error error => .error error
    | .ok node =>
      match toItems rest with
      | .error error => .error error
      | .ok others => .ok (node :: others)

end

end Value
end BootSnapshot.PropertyList
