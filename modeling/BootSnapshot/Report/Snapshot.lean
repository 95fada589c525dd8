import BootSnapshot.Merge.Basic
import BootSnapshot.Report.Scan

set_option autoImplicit false

namespace BootSnapshot

structure SnapshotSummary where
  document : String
  root : String
  mode : Merge.Mode
  dryRun : Bool
  /-- The file that was written, if any. -/
  written : Option String
  /-- The copy of what the file held before. -/
  backup : Option String
  changes : Merge.ChangeLog
  skipped : List Skip

namespace Report

def savedText (summary : SnapshotSummary) : String :=
  if summary.dryRun then "Dry run: nothing written"
  else
    match summary.written, summary.backup with
    | some path, some backup => "Saved " ++ path ++ " (backup: " ++ backup ++ ")"
    | some path, none => "Saved " ++ path
    | none, _ => "No changes; document left as is"

def snapshotText (summary : SnapshotSummary) : String :=
  let counts := summary.changes.counts
  heading "Snapshot" ++ "\n  Document: " ++ summary.document ++ "\n  OC root: " ++ summary.root ++
    "\n  Mode: " ++ summary.mode.name ++ "\n  Added: " ++ Decimal.natText counts.added ++
    "  Removed: " ++ Decimal.natText counts.removed ++ "  Stale: " ++
    Decimal.natText counts.staleRemoved ++ "  Updated: " ++ Decimal.natText counts.pathUpdated ++
    titledList "Changes" (summary.changes.map Merge.Change.display) ++
    titledList "Skipped" (summary.skipped.map Skip.display) ++ "\n\n" ++ savedText summary

def targetJson : Target → Json
  | .acpiAdd => .text "AcpiAdd"
  | .kernelAdd => .text "KernelAdd"
  | .uefiDrivers => .text "UefiDrivers"
  | .miscTools => .text "MiscTools"

def changeKindMembers : Merge.ChangeKind → List (String × Json)
  | .removed => [("kind", .text "removed")]
  | .staleRemoved => [("kind", .text "stale_removed")]
  | .added => [("kind", .text "added")]
  | .pathUpdated field old new =>
    [("kind", .text "path_updated"), ("field", .text field), ("old", .text old),
      ("new", .text new)]

def changeJson (change : Merge.Change) : Json :=
  .object
    ([("target", targetJson change.target)] ++ changeKindMembers change.kind ++
      [("identifying_path", .text change.identifyingPath), ("index", .ofNat change.index)])

def countsJson (counts : Merge.ChangeLog.Counts) : Json :=
  .object [
    ("removed", .ofNat counts.removed),
    ("stale_removed", .ofNat counts.staleRemoved),
    ("added", .ofNat counts.added),
    ("path_updated", .ofNat counts.pathUpdated)]

/-- The summary with the time at which it was made. -/
def snapshotJson (time : String) (summary : SnapshotSummary) : Json :=
  .object [
    ("generated_at", .text time),
    ("document", .text summary.document),
    ("oc_root", .text summary.root),
    ("mode", .text summary.mode.name),
    ("dry_run", .bool summary.dryRun),
    ("written", .ofText? summary.written),
    ("backup", .ofText? summary.backup),
    ("counts", countsJson summary.changes.counts),
    ("changes", .array (summary.changes.map changeJson)),
    ("skipped", .array (summary.skipped.map skipJson))]

end Report
end BootSnapshot
