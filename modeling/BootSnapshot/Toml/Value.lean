import BootSnapshot.Json.Value
import BootSnapshot.Toml.Moment

set_option autoImplicit false

namespace BootSnapshot.Toml

inductive Value where
  | scalar (content : Json)
  /-- A moment in its usual text. -/
  | moment (text : List Char)
  | array (items : List Value)
  | table (members : List (String × Value))

/-- The first key of tables that stand for moments. -/
def momentKey : String := "$__toml_private_datetime"

namespace Value

def toMoment? : Value → Option Json
  | .scalar (.text text) =>
    (Moment.read? .quoted text.toList).map fun moment => .text (String.ofList moment)
  | _ => none

mutual

/-- The value with objects for tables and texts for moments. -/
def toJson? : Value → Option Json
  | .scalar content => some content
  | .moment text => some (.text (String.ofList text))
  | .array items => (itemsJson? items).map .array
  | .table members =>
    match members with
    | [] => some (.object [])
    | (key, first) :: rest =>
      if key = momentKey then first.toMoment?
      else (membersJson? ((key, first) :: rest)).map .object

def itemsJson? : List Value → Option (List Json)
  | [] => some []
  | item :: rest => (toJson? item).bind fun json => (itemsJson? rest).map (json :: ·)

def membersJson? : List (String × Value) → Option (List (String × Json))
  | [] => some []
  | (key, value) :: rest =>
    (toJson? value).bind fun json => (membersJson? rest).map ((key, json) :: ·)

end

end Value
end BootSnapshot.Toml
