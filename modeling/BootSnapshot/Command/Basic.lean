set_option autoImplicit false

namespace BootSnapshot

inductive CommandName where
  | scan
  | snapshot
  | validate
  | inspect
deriving DecidableEq

namespace CommandName

def all : List CommandName := [.scan, .snapshot, .validate, .inspect]

def word : CommandName → String
  | .scan => "scan"
  | .snapshot => "snapshot"
  | .validate => "validate"
  | .inspect => "show"

def about : CommandName → String
  | .scan => "List the ACPI tables, kexts, drivers and tools in an OC directory"
  | .snapshot => "Reconcile config.plist with the files present in an OC directory"
  | .validate => "Check a config.plist for structural, path and load-order problems"
  | .inspect => "Print a document, or one node of it"

def ofWord? (word : String) : Option CommandName := all.find? (·.word = word)

end CommandName

structure SnapshotRequest where
  document : String
  /-- The directory to scan; without it the one that the document is in. -/
  directory : Option String := none
  /-- Whether all lists are rebuilt, whatever the settings say. -/
  clean : Bool := false
  /-- The file to write; without it the document itself. -/
  output : Option String := none
  dryRun : Bool := false
  /-- Whether no confirmation is asked for. -/
  yes : Bool := false
deriving DecidableEq

/-- What a user can ask for. -/
inductive Command where
  | scan (directory : String)
  | snapshot (request : SnapshotRequest)
  | validate (document : String)
  /-- The node at a path of a document, or the whole document. -/
  | inspect (document : String) (path : Option String)
deriving DecidableEq

structure GlobalOptions where
  /-- The directory whose settings count. -/
  workspace : String := "."
  /-- The file of settings to read in place of the usual ones. -/
  config : Option String := none
  verbose : Bool := false
  quiet : Bool := false
  logLevel : Option String := none
  logFormat : Option String := none
  logOutput : Option String := none
  logFile : Option String := none
deriving DecidableEq

/-- A command with the format of its output and its options. -/
structure Invocation where
  command : Command
  format : String := "text"
  options : GlobalOptions := {}
deriving DecidableEq

def Command.name : Command → CommandName
  | .scan _ => .scan
  | .snapshot _ => .snapshot
  | .validate _ => .validate
  | .inspect _ _ => .inspect

end BootSnapshot
