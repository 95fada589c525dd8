set_option autoImplicit false

namespace BootSnapshot

/-- Every category has a directory of its own on disk. Kexts are bundles, which are directories; the
components of the other categories are files with certain extensions. -/
inductive Category where
  | acpi
  | kext
  | driver
  | tool
deriving DecidableEq

namespace Category

def all : List Category := [.acpi, .kext, .driver, .tool]

/-- The place in the order of scan results. -/
def rank : Category → Nat
  | .acpi => 0
  | .kext => 1
  | .driver => 2
  | .tool => 3

def name : Category → String
  | .acpi => "ACPI"
  | .kext => "Kext"
  | .driver => "Driver"
  | .tool => "Tool"

def directory : Category → String
  | .acpi => "ACPI"
  | .kext => "Kexts"
  | .driver => "Drivers"
  | .tool => "Tools"

/-- The extensions of the category's files, in lower case and without the point. -/
def extensions : Category → List String
  | .acpi => ["aml", "bin"]
  | .kext => []
  | .driver => ["efi"]
  | .tool => ["efi"]

end Category
end BootSnapshot
