import BootSnapshot.Decimal.Binary64
import BootSnapshot.FileSystem.DiskPath
import BootSnapshot.Settings.Layer

set_option autoImplicit false

namespace BootSnapshot

abbrev Environment := List (String × String)

namespace Environment

def get? (environment : Environment) (name : String) : Option String :=
  (environment.find? (·.1 = name)).map Prod.snd

/-- What the names of variables that give settings begin with, in lower case. -/
def mark : List Char := ['o', 'c', 's', 'n', 'a', 'p', '_', '_']

/-- A name with a point for each double underscore. -/
def pointed : List Char → List Char
  | '_' :: '_' :: rest => '.' :: pointed rest
  | c :: rest => c :: pointed rest
  | [] => []

def valueOf (text : String) : Json :=
  if Text.lowercase text = "true" then .bool true
  else if Text.lowercase text = "false" then .bool false
  else
    match Decimal.readSigned? text.toList, Decimal.readReal? text.toList with
    | some n, _ => .integer n
    | none, some x => .real x
    | none, none => .text text

/-- The path of keys that a variable gives a value to. -/
def settingName? (name : String) : Option String :=
  let lower := (Text.lowercase name).toList
  if mark.isPrefixOf lower then some (String.ofList (pointed (lower.drop mark.length))) else none

/-- A variable whose name begins with a certain mark gives a field; double underscores in the rest
of the name part the keys that lead to it. -/
def layer (environment : Environment) : Settings.Layer :=
  environment.filterMap fun (name, value) => (settingName? name).map (·, valueOf value)

/-- The file of settings for all workspaces: in the directory for settings if there is one, else
in the usual place below the home directory. -/
def globalFile? (environment : Environment) : Option String :=
  let own := (environment.get? "XDG_CONFIG_HOME").filter (· ≠ "")
  let home := (environment.get? "HOME").map (DiskPath.join · ".config")
  (own.or home).map fun base => DiskPath.join (DiskPath.join base "ocsnap") "config.toml"

end Environment
end BootSnapshot
