import BootSnapshot.Finding.Dependency
import BootSnapshot.Finding.Duplicate
import BootSnapshot.Finding.PathLength
import BootSnapshot.Finding.Structure

set_option autoImplicit false

namespace BootSnapshot

structure ValidationReport where
  errors : List Finding
  warnings : List Finding
deriving DecidableEq

namespace ValidationReport

def empty : ValidationReport := ⟨[], []⟩

/-- The report with one more finding, which comes last among those of its severity. -/
def push (report : ValidationReport) (finding : Finding) : ValidationReport :=
  match finding.severity with
  | .error => { report with errors := report.errors ++ [finding] }
  | .warning => { report with warnings := report.warnings ++ [finding] }

def extend (report : ValidationReport) (findings : List Finding) : ValidationReport :=
  findings.foldl push report

def ofFindings (findings : List Finding) : ValidationReport := empty.extend findings

def hasErrors (report : ValidationReport) : Bool := ! report.errors.isEmpty

def isClean (report : ValidationReport) : Bool := report.errors.isEmpty && report.warnings.isEmpty

def ofCheck (report : ValidationReport) (check : Check) : List Finding :=
  (report.errors ++ report.warnings).filter (·.check = check)

end ValidationReport

def Finding.ofCheck (document : Document) : Check → List Finding
  | .pathLength => Finding.longPaths document
  | .structural => Finding.structural document
  | .duplicate => Finding.duplicates document
  | .dependency => Finding.dependencies document

/-- The report of all checks, one after the other. -/
def Document.validate (document : Document) : ValidationReport :=
  (((ValidationReport.empty.extend (Finding.structural document)).extend
    (Finding.longPaths document)).extend (Finding.duplicates document)).extend
      (Finding.dependencies document)

end BootSnapshot
