import BootSnapshot.Decimal.Shortest

set_option autoImplicit false

namespace BootSnapshot

/-- Values whose objects keep the order of their members. -/
inductive Json where
  | null
  | bool (value : Bool)
  | integer (value : Int)
  | real (value : Decimal.Binary64)
  | text (value : String)
  | array (items : List Json)
  | object (members : List (String × Json))

namespace Json

/-- Exponents of the leading digit from -5 to 15 are written out. -/
def numberStyle : Decimal.NumberStyle where
  positional := some (-5, 15)
  pointZero := true
  tie := .toEven

def quoteChar (c : Char) : List Char :=
  if c = '"' then ['\\', '"']
  else if c = '\\' then ['\\', '\\']
  else if c = '\x08' then ['\\', 'b']
  else if c = '\t' then ['\\', 't']
  else if c = '\n' then ['\\', 'n']
  else if c = '\x0c' then ['\\', 'f']
  else if c = '\r' then ['\\', 'r']
  else if c < ' ' then
    ['\\', 'u', '0', '0', Decimal.digitChar (c.toNat / 16), Decimal.digitChar (c.toNat % 16)]
  else [c]

def quote (text : String) : String :=
  String.ofList (['"'] ++ text.toList.flatMap quoteChar ++ ['"'])

/-- The text of a value that holds no others. -/
def scalarText : Json → String
  | .null => "null"
  | .bool value => if value then "true" else "false"
  | .integer value => Decimal.intText value
  | .real value => String.ofList (numberStyle.render value)
  | .text value => quote value
  | .array _ => "[]"
  | .object _ => "\x7b\x7d"

mutual

/-- The text on one line, without blanks. -/
def compact : Json → String
  | .array (item :: rest) => "[" ++ compact item ++ compactItems rest ++ "]"
  | .object ((key, value) :: rest) =>
    "\x7b" ++ quote key ++ ":" ++ compact value ++ compactMembers rest ++ "\x7d"
  | other => scalarText other

def compactItems : List Json → String
  | [] => ""
  | item :: rest => "," ++ compact item ++ compactItems rest

def compactMembers : List (String × Json) → String
  | [] => ""
  | (key, value) :: rest => "," ++ quote key ++ ":" ++ compact value ++ compactMembers rest

end

def newLine (depth : Nat) : String := "\n" ++ String.ofList (List.replicate (2 * depth) ' ')

mutual

/-- The text with a line for every item and member, indented at the given depth. -/
def prettyAt (depth : Nat) : Json → String
  | .array (item :: rest) =>
    "[" ++ newLine (depth + 1) ++ prettyAt (depth + 1) item ++ prettyItems (depth + 1) rest ++
      newLine depth ++ "]"
  | .object ((key, value) :: rest) =>
    "\x7b" ++ newLine (depth + 1) ++ quote key ++ ": " ++ prettyAt (depth + 1) value ++
      prettyMembers (depth + 1) rest ++ newLine depth ++ "\x7d"
  | other => scalarText other

def prettyItems (depth : Nat) : List Json → String
  | [] => ""
  | item :: rest => "," ++ newLine depth ++ prettyAt depth item ++ prettyItems depth rest

def prettyMembers (depth : Nat) : List (String × Json) → String
  | [] => ""
  | (key, value) :: rest =>
    "," ++ newLine depth ++ quote key ++ ": " ++ prettyAt depth value ++ prettyMembers depth rest

end

/-- The text with a line for every item and member. -/
def pretty (json : Json) : String := json.prettyAt 0

def ofText? (value : Option String) : Json :=
  match value with
  | some found => .text found
  | none => .null

def ofNat (n : Nat) : Json := .integer n

def member? (key : String) (members : List (String × Json)) : Option Json :=
  (members.find? (·.1 = key)).map Prod.snd

/-- The members with another value under a key, which comes last if it is new. -/
def putMember (key : String) (value : Json) : List (String × Json) → List (String × Json)
  | [] => [(key, value)]
  | (other, old) :: rest =>
    if other = key then (key, value) :: rest else (other, old) :: putMember key value rest

end Json
end BootSnapshot
