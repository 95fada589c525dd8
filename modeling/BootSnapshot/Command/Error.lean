import BootSnapshot.Logging
import BootSnapshot.Merge.Basic
import BootSnapshot.Scan.Basic

set_option autoImplicit false

namespace BootSnapshot

inductive CommandError where
  | tree (error : TreeError)
  | property (error : PropertyList.ParseError)
  | scan (error : ScanError)
  | merge (error : MergeError)
  | settings (error : SettingsError)
  | logging (error : LoggingError)
  /-- There is no one to ask for confirmation. -/
  | notConfirmable
  | file (path : String) (error : OsError)
deriving DecidableEq

namespace CommandError

/-- What is told of all errors in the choices of the user. -/
def configurationMessage (cause : String) : String := "Configuration error: " ++ cause

/-- The error with the area that it belongs to. -/
def message : CommandError → String
  | .tree error => "Tree error: " ++ error.message
  | .property error => "Parse error: " ++ error.message
  | .scan error => "Scan error: " ++ error.message
  | .merge error => "Merge error: " ++ error.message
  | .settings error => configurationMessage error.message
  | .logging error => configurationMessage error.message
  | .notConfirmable =>
    configurationMessage "Failed to get user input: IO error: not a terminal"
  | .file path error => "I/O error on " ++ Text.quoted path ++ ": " ++ error.message

def shown : CommandError → String
  | .property (.malformed source) =>
    source ++ " is not a valid property list: " ++ PropertyList.malformation
  | .property .rootNotDictionary => "Document root must be a dictionary; refusing to edit it"
  | other => other.message

end CommandError
end BootSnapshot
