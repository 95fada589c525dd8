import BootSnapshot.Json.Value
import BootSnapshot.Report.Shared
import BootSnapshot.Report.Table
import BootSnapshot.Scan.Report

set_option autoImplicit false

namespace BootSnapshot.Report

/-- The row of a category: its name, its directory, and how many components were found in it. -/
def categoryRow (report : ScanReport) (category : Category) : List String :=
  [category.name, category.directory,
    if category ∈ report.scanned then Decimal.natText (report.count category) else "-"]

def componentRow (component : Component) : List String :=
  [component.category.name, component.relativePath, component.executablePath.getD "-",
    component.bundleIdentifier.getD "-"]

/-- A summary by category, a table of the components, and the skipped paths. -/
def scanText (report : ScanReport) : String :=
  let components :=
    if report.entries.isEmpty then ""
    else
      "\n" ++ table ["Category", "Path", "Executable", "Identifier"]
        (report.entries.map componentRow)
  heading "Scan" ++ "\n  Root: " ++ report.root ++ "\n" ++
    table ["Category", "Directory", "Found"] (Category.all.map (categoryRow report)) ++ "\n" ++
    components ++ titledList "Skipped" (report.skipped.map Skip.display)

def categoryJson : Category → Json
  | .acpi => .text "Acpi"
  | .kext => .text "Kext"
  | .driver => .text "Driver"
  | .tool => .text "Tool"

def optionalMember (key : String) (value : Option String) : List (String × Json) :=
  match value with
  | some text => [(key, .text text)]
  | none => []

def componentJson (component : Component) : Json :=
  .object
    ([("relative_path", .text component.relativePath),
        ("category", categoryJson component.category)] ++
      optionalMember "executable_path" component.executablePath ++
      optionalMember "info_path" component.infoPath ++
      optionalMember "bundle_identifier" component.bundleIdentifier ++
      if component.libraries.isEmpty then []
      else [("libraries", .array (component.libraries.map .text))])

def skipJson (skip : Skip) : Json :=
  .object [("path", .text skip.path), ("reason", .text skip.reason)]

def scanJson (report : ScanReport) : Json :=
  .object [
    ("root", .text report.root),
    ("scanned", .array (report.scanned.map categoryJson)),
    ("entries", .array (report.entries.map componentJson)),
    ("skipped", .array (report.skipped.map skipJson))]

end BootSnapshot.Report
