import BootSnapshot.Finding.Report
import BootSnapshot.Json.Value
import BootSnapshot.Report.Shared

set_option autoImplicit false

namespace BootSnapshot.Report

def validationText (document : String) (report : ValidationReport) : String :=
  if report.isClean then
    "Validation passed:\n  Document: " ++ document ++ "\n  All checks passed"
  else
    "Validation completed with issues:\n  Document: " ++ document ++
      titledList "Errors" (report.errors.map Finding.display) ++
      titledList "Warnings" (report.warnings.map Finding.display)

def findingJson (finding : Finding) : Json :=
  .object [
    ("category", .text finding.check.name),
    ("path", .text finding.path.display),
    ("message", .text finding.message)]

def validationJson (document : String) (report : ValidationReport) : Json :=
  .object [
    ("document", .text document),
    ("valid", .bool (! report.hasErrors)),
    ("errors", .array (report.errors.map findingJson)),
    ("warnings", .array (report.warnings.map findingJson))]

end BootSnapshot.Report
