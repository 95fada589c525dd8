import BootSnapshot.Finding.Basic
import BootSnapshot.Merge.Identity

set_option autoImplicit false

namespace BootSnapshot

/-- When `subject` is enabled, every kext in `requires` must be, and must come first if
`requiresBefore` is set. -/
structure DependencyRule where
  subject : String
  requires : List String
  requiresBefore : Bool
deriving DecidableEq

namespace DependencyRule

/-- A kext that needs others loaded before it. -/
def after (subject : String) (requires : List String) : DependencyRule := ⟨subject, requires, true⟩

def table : List DependencyRule := [
  after "AirportBrcmFixup" ["Lilu"],
  after "AMFIPass" ["Lilu"],
  after "AppleALC" ["Lilu"],
  after "BlueToolFixup" ["Lilu"],
  after "BrightnessKeys" ["Lilu"],
  after "CPUFriend" ["Lilu"],
  after "CPUFriendDataProvider" ["CPUFriend"],
  after "CpuTscSync" ["Lilu"],
  after "CryptexFixup" ["Lilu"],
  after "DebugEnhancer" ["Lilu"],
  after "ECEnabler" ["Lilu"],
  after "FeatureUnlock" ["Lilu"],
  after "HibernationFixup" ["Lilu"],
  after "NVMeFix" ["Lilu"],
  after "RestrictEvents" ["Lilu"],
  after "VirtualSMC" ["Lilu"],
  after "WhateverGreen" ["Lilu"],
  after "SMCBatteryManager" ["VirtualSMC"],
  after "SMCDellSensors" ["VirtualSMC"],
  after "SMCLightSensor" ["VirtualSMC"],
  after "SMCProcessor" ["VirtualSMC"],
  after "SMCSuperIO" ["VirtualSMC"],
  after "VoodooPS2Keyboard" ["VoodooPS2Controller"],
  after "VoodooPS2Mouse" ["VoodooPS2Controller"],
  after "VoodooPS2Trackpad" ["VoodooPS2Controller"],
  after "VoodooI2CHID" ["VoodooI2C"],
  after "BrcmPatchRAM3" ["BrcmFirmwareData"],
  ⟨"BrcmBluetoothInjector", ["BrcmPatchRAM3"], false⟩]

end DependencyRule

namespace Finding

def bundleEnding : List Char := ['.', 'k', 'e', 'x', 't']

/-- The name without the ending of bundles, in any case. -/
def withoutEnding (name : List Char) : List Char :=
  let cut := name.length - bundleEnding.length
  if (name.drop cut).map Char.toLower = bundleEnding then name.take cut else name

def componentName (bundle : String) : String :=
  String.ofList (withoutEnding (ComponentPath.fileName (ComponentPath.normalize bundle)).toList)

/-- The name of an item that is an enabled kext. -/
def enabledName? (item : Node) : Option String :=
  match ExistingEntry.project? .kernelAdd 0 item .byBundle with
  | some entry =>
    if entry.isEnabled then
      (entry.dictionary?.bind (·.text? Field.bundlePath)).map componentName
    else none
  | none => none

def position? (items : List Node) (name : String) : Option Nat :=
  items.findIdx? fun item => enabledName? item = some name

/-- The finding about one kext that another one at a position needs. -/
def requirementFinding (items : List Node) (rule : DependencyRule) (index : Nat)
    (required : String) : Option Finding :=
  match position? items required with
  | none => some (.requirementMissing index rule.subject required)
  | some position =>
    if rule.requiresBefore ∧ index < position then
      some (.requirementLate index rule.subject required)
    else none

def ruleFindings (items : List Node) (rule : DependencyRule) : List Finding :=
  match position? items rule.subject with
  | none => []
  | some index => rule.requires.filterMap (requirementFinding items rule index)

/-- The findings of all rules, in the order of the table. Kexts are loaded in the order of their
list, and are known by the names of their bundles. -/
def dependencies (document : Document) : List Finding :=
  DependencyRule.table.flatMap (ruleFindings ((document.items? .kernelAdd).getD []))

end Finding
end BootSnapshot
