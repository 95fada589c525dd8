import BootSnapshot.FileSystem.Disk
import BootSnapshot.Json.Reader
import BootSnapshot.Settings.Environment
import BootSnapshot.Settings.Reading
import BootSnapshot.Toml.Document

set_option autoImplicit false

namespace BootSnapshot.Settings

/-- The defaults that are given as a layer; other fields have theirs when they are read. -/
def defaultLayer : Layer :=
  let logging : LoggingSettings := {}
  let scan : ScanSettings := {}
  let snapshot : SnapshotSettings := {}
  [ ("logging", .object [
      ("enabled", .bool logging.isEnabled), ("level", .text logging.level),
      ("format", .text logging.format), ("output", .text logging.output)]),
    ("scan", .object [("follow_symlinks", .bool scan.followLinks)]),
    ("snapshot", .object [
      ("default_mode", .text snapshot.defaultMode.name),
      ("backup_on_save", .bool snapshot.backupOnSave)])]

def defaults : Except SettingsError Settings := read defaultLayer

inductive FileForm where
  | toml
  | json
deriving DecidableEq

def FileForm.ofPath? (path : String) : Option FileForm :=
  match DiskPath.extension? path with
  | some "toml" => some .toml
  | some "json" => some .json
  | _ => none

/-- Text without the mark of byte order that it may begin with. -/
def withoutByteOrderMark (bytes : List UInt8) : List UInt8 :=
  if [0xEF, 0xBB, 0xBF].isPrefixOf bytes then bytes.drop 3 else bytes

def FileForm.layer? (form : FileForm) (text : List Char) : Option Layer :=
  let content :=
    match form with
    | .toml => (Toml.read? text).bind Toml.Value.toJson?
    | .json => Json.read? text
  match content with
  | some (.object members) => some members
  | _ => none

variable {m : Type → Type} [Monad m]

def fileLayer (disk : Disk m) (path : String) : m (Except SettingsError Layer) := do
  match FileForm.ofPath? path with
  | none => return .error (.unreadableFile path)
  | some form =>
    match ← disk.read path with
    | .error _ => return .error (.unreadableFile path)
    | .ok bytes =>
      match Bytes.chars? (withoutByteOrderMark bytes) with
      | none => return .error (.unreadableFile path)
      | some text =>
        match form.layer? text with
        | some layer => return .ok layer
        | none => return .error (.malformedFile path)

/-- The layer of a file that need not be there; one that cannot be read counts as missing. -/
def optionalLayer (disk : Disk m) (path : String) : m (Except SettingsError Layer) := do
  match ← fileLayer disk path with
  | .error (.unreadableFile _) => return .ok []
  | result => return result

def workspaceFileName : String := ".ocsnap.toml"

def globalLayer (disk : Disk m) (environment : Environment) : m (Except SettingsError Layer) := do
  match environment.globalFile? with
  | none => return .ok []
  | some path =>
    if ! (← disk.isFile path) then return .ok []
    match ← disk.canonical path with
    | .ok place => optionalLayer disk place
    | .error _ => optionalLayer disk path

def workspaceLayer (disk : Disk m) (workspace : String) : m (Except SettingsError Layer) := do
  let path := DiskPath.join workspace workspaceFileName
  if ← disk.isFile path then optionalLayer disk path else return .ok []

/-- The settings of layers over the defaults, the last one on top. -/
def ofLayers (layers : List Layer) : Except SettingsError Settings := do
  (← read (layers.foldl lay (lay [] defaultLayer))).check

/-- The layers from the lowest are the file for all workspaces, the file of the workspace, and the
environment. -/
def load (disk : Disk m) (environment : Environment) (workspace : String) :
    m (Except SettingsError Settings) := do
  match ← globalLayer disk environment with
  | .error error => return .error error
  | .ok globally =>
    match ← workspaceLayer disk workspace with
    | .error error => return .error error
    | .ok locally => return ofLayers [globally, locally, environment.layer]

/-- A file that is named takes the place of both files. -/
def loadFile (disk : Disk m) (environment : Environment) (path : String) :
    m (Except SettingsError Settings) := do
  if ! (← disk.isFile path) then return .error (.fileNotFound path)
  match ← fileLayer disk path with
  | .error error => return .error error
  | .ok layer => return ofLayers [layer, environment.layer]

end BootSnapshot.Settings
