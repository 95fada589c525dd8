import BootSnapshot.Component.Basic

set_option autoImplicit false

namespace BootSnapshot

structure ScanReport where
  /-- The directory that was scanned. -/
  root : String
  /-- The categories whose directories exist. -/
  scanned : List Category
  /-- The components, by category and then by path. -/
  entries : List Component
  skipped : List Skip
deriving DecidableEq

namespace ScanReport

def ofCategory (report : ScanReport) (category : Category) : List Component :=
  report.entries.filter (·.category = category)

def count (report : ScanReport) (category : Category) : Nat := (report.ofCategory category).length

end ScanReport
end BootSnapshot
