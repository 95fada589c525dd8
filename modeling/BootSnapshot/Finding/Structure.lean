import BootSnapshot.Finding.Basic

set_option autoImplicit false

namespace BootSnapshot.Finding

/-- The usual subsections of a required section. -/
def recommendedKeys : String → List String
  | "ACPI" => ["Add", "Delete", "Patch", "Quirks"]
  | "Booter" => ["MmioWhitelist", "Patch", "Quirks"]
  | "DeviceProperties" => ["Add", "Delete"]
  | "Kernel" => ["Add", "Block", "Emulate", "Force", "Patch", "Quirks", "Scheme"]
  | "Misc" => ["BlessOverride", "Boot", "Debug", "Entries", "Security", "Tools"]
  | "NVRAM" => ["Add", "Delete", "LegacySchema", "WriteFlash"]
  | "PlatformInfo" =>
    ["Automatic", "Generic", "UpdateDataHub", "UpdateNVRAM", "UpdateSMBIOS", "UpdateSMBIOSMode"]
  | "UEFI" =>
    ["APFS", "AppleInput", "Audio", "ConnectDrivers", "Drivers", "Input", "Output",
      "ProtocolOverrides", "Quirks", "ReservedMemory"]
  | _ => []

def sectionFindings (document : Document) (key : String) : List Finding :=
  match document.get? key with
  | none => [.sectionMissing key]
  | some (.dictionary children) =>
    ((recommendedKeys key).filter (! children.contains ·)).map (.subsectionMissing key)
  | some other => [.sectionNotDictionary key other.kind]

def listFindings (document : Document) (target : Target) : List Finding :=
  match document.targetNode? target with
  | none => []
  | some (.sequence _) => []
  | some other => [.listNotArray target other.kind]

/-- Sections in their order, and then the lists. -/
def structural (document : Document) : List Finding :=
  Document.requiredKeys.flatMap (sectionFindings document) ++
    Target.all.flatMap (listFindings document)

end BootSnapshot.Finding
