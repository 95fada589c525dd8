import BootSnapshot.Command.Basic
import BootSnapshot.Command.Error
import BootSnapshot.Report.Outline
import BootSnapshot.Report.Snapshot
import BootSnapshot.Report.Validation
import BootSnapshot.Settings.Load

set_option autoImplicit false

namespace BootSnapshot

/-- What a program has around it. -/
structure Host (m : Type → Type) where
  storage : Storage m
  environment : Environment
  /-- The current time as text. -/
  now : m String
  /-- Asks the user to confirm something; nothing if there is no one to ask. -/
  confirm : String → m (Option Bool)

structure CommandOutput where
  rendered : String
  /-- Whether nothing is wrong with what was looked at. -/
  isSuccess : Bool := true
deriving DecidableEq

namespace Command

variable {m : Type → Type} [Monad m]

/-- An operation of the system, of which an error is told with a path. -/
def attempt {α : Type} (path : String) (operation : m (Except OsError α)) :
    ExceptT CommandError m α :=
  ExceptT.mk do return (← operation).mapError (.file path)

/-- A result whose error is an error of commands. -/
def lift {ε α : Type} (wrap : ε → CommandError) (result : Except ε α) : ExceptT CommandError m α :=
  ExceptT.mk (pure (result.mapError wrap))

/-- An output in the format asked for; all but one format are text. -/
def render (format text : String) (json : Json) : String :=
  if format = "json" then json.pretty else text

def load (storage : Storage m) (path : String) :
    ExceptT CommandError m (Document × PropertyList.Format) := do
  let bytes ← attempt path (storage.read path)
  let document ← lift .property (Document.read path bytes)
  return (document, PropertyList.Format.ofBytes bytes)

/-- The file that keeps what a file held before. -/
def backupPath (path : String) : String := path ++ ".bak"

/-- The file that takes new content before it becomes the file itself. -/
def stagingPath (path : String) : String := path ++ ".tmp"

/-- Replaces what a file holds. The old content is copied first if it is to be kept; then the name
of the copy is the result. The new content is written to a file beside the destination, which then
takes the destination's name, so that the destination never holds half a document. -/
def save (storage : Storage m) (keepsOld : Bool) (path : String) (bytes : List UInt8) :
    ExceptT CommandError m (Option String) := do
  let isFile ← storage.isFile path
  let backup := if keepsOld && isFile then some (backupPath path) else none
  if let some copy := backup then
    attempt copy (storage.copy path copy)
  attempt (stagingPath path) (storage.write (stagingPath path) bytes)
  attempt path (storage.rename (stagingPath path) path)
  return backup

def documentDirectory (document : String) : String :=
  match DiskPath.parent? document with
  | some parent => if parent = "" then "." else parent
  | none => "."

def scanAll (storage : Storage m) (settings : Settings) (directory : String) :
    ExceptT CommandError m ScanReport := do
  let options : ScanOptions := {
    followLinks := settings.scan.followLinks
    schedule := .inOrder (settings.scan.workers.getD 1) }
  let result ← (BootSnapshot.scan storage.toDisk options directory : m _)
  lift .scan result

/-- What the user is asked before lists are rebuilt. -/
def rebuildQuestion (document : String) : String :=
  "Rebuild every component list in " ++ document ++
    " from disk? Existing entries and their settings will be discarded."

/-- Brings a document up to date with a directory, and saves it where it goes. Lists of categories
without a directory stay as they are, and a document that stays as it is is not written over
itself. -/
def updateDocument (storage : Storage m) (settings : Settings) (mode : Merge.Mode)
    (request : SnapshotRequest) : ExceptT CommandError m SnapshotSummary := do
  let (document, format) ← load storage request.document
  let report ← scanAll storage settings
    (request.directory.getD (documentDirectory request.document))
  let (merged, changes) ← lift .merge
    (Merge.mergeTargets document report.entries mode (report.scanned.map Target.ofCategory))
  let destination := request.output.getD request.document
  let isSame ← storage.sameFile destination request.document
  let summary : SnapshotSummary := {
    document := request.document
    root := report.root
    mode := mode
    dryRun := request.dryRun
    written := none
    backup := none
    changes := changes
    skipped := report.skipped }
  if request.dryRun || changes.isEmpty && isSame then return summary
  let backup ← save storage settings.snapshot.backupOnSave destination (merged.write format)
  return { summary with written := some destination, backup := backup }

/-- Takes a snapshot. To rebuild all lists needs a confirmation, unless it is given in advance or
nothing will be written. -/
def takeSnapshot (host : Host m) (settings : Settings) (format : String)
    (request : SnapshotRequest) : ExceptT CommandError m CommandOutput := do
  let mode := if request.clean then .clean else settings.snapshot.defaultMode
  if mode = .clean && ! request.yes && ! request.dryRun then
    match ← host.confirm (rebuildQuestion request.document) with
    | none => throw .notConfirmable
    | some false => return { rendered := "Snapshot cancelled" }
    | some true => pure ()
  let summary ← updateDocument host.storage settings mode request
  let time ← host.now
  return {
    rendered := render format (Report.snapshotText summary) (Report.snapshotJson time summary) }

def runScan (host : Host m) (settings : Settings) (format directory : String) :
    ExceptT CommandError m CommandOutput := do
  let report ← scanAll host.storage settings directory
  return { rendered := render format (Report.scanText report) (Report.scanJson report) }

def runValidation (host : Host m) (format document : String) :
    ExceptT CommandError m CommandOutput := do
  let (content, _) ← load host.storage document
  let report := content.validate
  return {
    rendered := render format (Report.validationText document report)
      (Report.validationJson document report)
    isSuccess := ! report.hasErrors }

/-- The node at a written path, which is the whole document if the path is the root. -/
def nodeAt (document : Document) (path : Path) : Except TreeError Node :=
  if path = [] then .ok document.toNode else document.locate path

def runInspection (host : Host m) (format document : String) (path : Option String) :
    ExceptT CommandError m CommandOutput := do
  let (content, _) ← load host.storage document
  let path ← lift .tree (Path.read (path.getD ""))
  let node ← lift .tree (nodeAt content path)
  return { rendered := render format (Report.outline path node) (Report.nodeJson node) }

def run (host : Host m) (settings : Settings) (format : String) :
    Command → ExceptT CommandError m CommandOutput
  | .scan directory => runScan host settings format directory
  | .snapshot request => takeSnapshot host settings format request
  | .validate document => runValidation host format document
  | .inspect document path => runInspection host format document path

end Command
end BootSnapshot
