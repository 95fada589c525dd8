import BootSnapshot.Decimal.Shortest
import BootSnapshot.Settings.Basic
import BootSnapshot.Settings.Layer

set_option autoImplicit false

namespace BootSnapshot.Settings

def wordTruth? (word : String) : Option Bool :=
  if word ∈ ["true", "on", "yes"] then some true
  else if word ∈ ["false", "off", "no"] then some false
  else none

/-- A truth value; numbers other than zero count as true. -/
def truth? : Json → Option Bool
  | .bool value => some value
  | .integer n => some (n ≠ 0)
  | .real x => some (x.isNaN || x.isInfinite || x.significand ≠ 0)
  | .text text =>
    let word := Text.lowercase text
    if word = "1" then some true
    else if word = "0" then some false
    else wordTruth? word
  | _ => none

/-- The natural number of 64 bits that is nearest; halves go up. -/
def nearestCount (x : Decimal.Binary64) : Nat :=
  if x.isNaN || x.isNegative then 0
  else if x.isInfinite then Decimal.unsignedLimit - 1
  else min ((2 * x.numerator + x.denominator) / (2 * x.denominator)) (Decimal.unsignedLimit - 1)

def count? : Json → Option Nat
  | .bool value => some value.toNat
  | .integer n => if 0 ≤ n then some n.toNat else none
  | .real x => some (nearestCount x)
  | .text text =>
    match wordTruth? (Text.lowercase text) with
    | some value => some value.toNat
    | none => Decimal.readUnsigned? 10 Decimal.unsignedLimit text.toList
  | _ => none

/-- A count that may be left open. -/
def openCount? : Json → Option (Option Nat)
  | .null => some none
  | value => (count? value).map some

def text? : Json → Option String
  | .text text => some text
  | .bool value => some (if value then "true" else "false")
  | .integer n => some (Decimal.intText n)
  | .real x => some (String.ofList (Decimal.plain.render x))
  | _ => none

def modeNamed? (name : String) : Option Merge.Mode :=
  [Merge.Mode.additive, .clean].find? fun mode => mode.name = Text.lowercase name

/-- A way to merge is given by its name, which may be the only key of an object. -/
def mode? : Json → Option Merge.Mode
  | .text name => modeNamed? name
  | .object [(name, _)] => modeNamed? name
  | _ => none

def namedText? (member : String × Json) : Option (String × String) :=
  (text? member.2).map (member.1, ·)

/-- Texts with their names, in the order of the names. -/
def texts? : Json → Option (List (String × String))
  | .object members => do
    let texts ← members.mapM namedText?
    return texts.mergeSort fun a b => a.1 ≤ b.1
  | _ => none

structure Group where
  name : String
  value : Json

namespace Group

/-- What a group gives for a field: the member of that name, or the item at that place. -/
def given? (group : Group) (place : Nat) (name : String) : Option Json :=
  match group.value with
  | .object members => Json.member? name members
  | .array items => items[place]?
  | _ => none

/-- The value of a field, which is the default if the group does not give one. -/
def field {α : Type} (group : Group) (place : Nat) (name : String) (read : Json → Option α)
    (default : α) : Except SettingsError α :=
  match group.given? place name with
  | none => .ok default
  | some value =>
    match read value with
    | some found => .ok found
    | none => .error (.unsuitable (group.name ++ "." ++ name))

def find (layer : Layer) (name : String) : Except SettingsError Group :=
  match Json.member? name layer with
  | none => .ok ⟨name, .object []⟩
  | some (.object members) => .ok ⟨name, .object members⟩
  | some (.array items) => .ok ⟨name, .array items⟩
  | some _ => .error (.unsuitable name)

end Group

def readLogging (group : Group) : Except SettingsError LoggingSettings := do
  let default : LoggingSettings := {}
  return {
    isEnabled := ← group.field 0 "enabled" truth? default.isEnabled
    level := ← group.field 1 "level" text? default.level
    format := ← group.field 2 "format" text? default.format
    output := ← group.field 3 "output" text? default.output
    file := ← group.field 4 "file" text? default.file
    color := ← group.field 5 "color" truth? default.color
    modules := ← group.field 6 "modules" texts? default.modules }

def readScan (group : Group) : Except SettingsError ScanSettings := do
  let default : ScanSettings := {}
  return {
    workers := ← group.field 0 "workers" openCount? default.workers
    followLinks := ← group.field 1 "follow_symlinks" truth? default.followLinks }

def readSnapshot (group : Group) : Except SettingsError SnapshotSettings := do
  let default : SnapshotSettings := {}
  return {
    defaultMode := ← group.field 0 "default_mode" mode? default.defaultMode
    backupOnSave := ← group.field 1 "backup_on_save" truth? default.backupOnSave }

/-- The settings of a layer, whether or not they are sound. Fields take values of more kinds than
their own if they can be understood; those that are missing have their defaults, and unknown ones do
not matter. -/
def read (layer : Layer) : Except SettingsError Settings := do
  return {
    logging := ← readLogging (← Group.find layer "logging")
    scan := ← readScan (← Group.find layer "scan")
    snapshot := ← readSnapshot (← Group.find layer "snapshot") }

end BootSnapshot.Settings
