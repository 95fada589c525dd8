import BootSnapshot.Merge.Reconcile
import BootSnapshot.Text.Pieces

set_option autoImplicit false

namespace BootSnapshot

structure LoggingSettings where
  isEnabled : Bool := true
  level : String := "warn"
  /-- How a line is written: `text` or `json`. -/
  format : String := "text"
  /-- Where lines go: `stdout`, `stderr` or `file`. -/
  output : String := "stderr"
  /-- The file to write to if lines go to one. -/
  file : String := "ocsnap.log"
  color : Bool := true
  /-- The levels of single modules. -/
  modules : List (String × String) := []
deriving DecidableEq

structure ScanSettings where
  /-- How many work on a scan; without it as many as the machine can run. -/
  workers : Option Nat := none
  followLinks : Bool := false
deriving DecidableEq

structure SnapshotSettings where
  /-- The way to merge if a command does not ask for one. -/
  defaultMode : Merge.Mode := .additive
  /-- Whether a file is copied before it is replaced. -/
  backupOnSave : Bool := true
deriving DecidableEq

structure Settings where
  logging : LoggingSettings := {}
  scan : ScanSettings := {}
  snapshot : SnapshotSettings := {}
deriving DecidableEq

inductive SettingsFault where
  | noWorkers
  | unknownLogFormat (format : String)
deriving DecidableEq

def SettingsFault.message : SettingsFault → String
  | .noWorkers => "scan.workers must be at least 1"
  | .unknownLogFormat format => "logging.format must be 'json' or 'text', got '" ++ format ++ "'"

inductive SettingsError where
  | faulty (faults : List SettingsFault)
  | fileNotFound (path : String)
  /-- The file cannot be read or is no text, or its name does not tell its form. -/
  | unreadableFile (path : String)
  /-- The file breaks the rules of its form. -/
  | malformedFile (path : String)
  /-- A field cannot take the value that is given to it. -/
  | unsuitable (field : String)
deriving DecidableEq

def SettingsError.message : SettingsError → String
  | .faulty faults =>
    "Configuration validation failed:\n" ++ Text.lines (faults.map SettingsFault.message)
  | .fileNotFound path => "Configuration file not found: " ++ path
  | .unreadableFile path => "configuration file " ++ path ++ " cannot be read"
  | .malformedFile path => "configuration file " ++ path ++ " is malformed"
  | .unsuitable field => "invalid value for " ++ field

namespace LoggingSettings

def formats : List String := ["json", "text"]

end LoggingSettings

namespace Settings

def faults (settings : Settings) : List SettingsFault :=
  (if settings.scan.workers = some 0 then [.noWorkers] else []) ++
    (if settings.logging.format ∈ LoggingSettings.formats then []
      else [.unknownLogFormat settings.logging.format])

def check (settings : Settings) : Except SettingsError Settings :=
  if settings.faults = [] then .ok settings else .error (.faulty settings.faults)

theorem check_eq_ok_iff (settings checked : Settings) :
    settings.check = .ok checked ↔ settings.faults = [] ∧ checked = settings := by
  unfold check
  split <;> rename_i sound <;> simp [sound, eq_comm]

end Settings
end BootSnapshot
