import BootSnapshot.Component.Basic
import BootSnapshot.FileSystem.Disk
import BootSnapshot.PropertyList.Codec

set_option autoImplicit false

namespace BootSnapshot.Scan

/-- A bundle on disk, not yet looked into. -/
structure BundleCandidate where
  /-- The directory itself. -/
  path : String
  /-- The normal spelling of the path from the directory of the kexts. -/
  relativePath : String
  /-- One for a bundle, two for a plug-in. -/
  depth : Nat
deriving DecidableEq

structure BundleDiscovery where
  candidates : List BundleCandidate
  skipped : List Skip
deriving DecidableEq

def BundleDiscovery.append (a b : BundleDiscovery) : BundleDiscovery :=
  ⟨a.candidates ++ b.candidates, a.skipped ++ b.skipped⟩

/-- How many bundles may lie one in the other. -/
def maxBundleDepth : Nat := 2

def bundleExtension : List Char := ['k', 'e', 'x', 't']

def descriptorName : String := "Info.plist"

def plugInsPath : String := "Contents/PlugIns"

def isBundleName (name : String) : Bool :=
  match (DiskPath.lastName? name).bind DiskPath.nameExtension? with
  | some ending => ending.map Char.toLower = bundleExtension
  | none => false

/-- Whether a name in a directory is one of a bundle to look for. -/
def isVisibleBundleName (name : String) : Bool :=
  name.toList.head? ≠ some '.' && isBundleName name

variable {m : Type → Type} [Monad m]

def BundleCandidate.plugIns (candidate : BundleCandidate) : String :=
  DiskPath.join (DiskPath.join candidate.path "Contents") "PlugIns"

def candidatesAmong (disk : Disk m) (directory front : String) (depth : Nat)
    (names : List String) : m (List BundleCandidate) :=
  ((names.filter isVisibleBundleName).map fun name =>
    (⟨DiskPath.join directory name, ComponentPath.normalize (front ++ "/" ++ name), depth⟩ :
      BundleCandidate)).filterM fun candidate => disk.isDirectory candidate.path

/-- Whether a directory has a name of a bundle in it. -/
def holdsBundles (disk : Disk m) (directory : String) : m Bool := do
  match ← disk.list directory with
  | .ok listing => pure (listing.members.any fun (name, _) => isBundleName name)
  | .error _ => pure false

/-- The bundles in a directory and, as far as `levels` allows, the plug-ins in them. `front` is the
path of the directory from that of the kexts. -/
def discoverFrom (disk : Disk m) :
    (levels depth : Nat) → (directory front : String) → m BundleDiscovery
  | levels, depth, directory, front => do
    match ← disk.list directory with
    | .error error => return ⟨[], [⟨if front = "" then directory else front, error.message⟩]⟩
    | .ok listing =>
      let faults := listing.faults.map fun error => (⟨front, error.message⟩ : Skip)
      let candidates ← candidatesAmong disk directory front depth (listing.members.map Prod.fst)
      let withPlugIns ← candidates.filterM fun candidate => disk.isDirectory candidate.plugIns
      match levels with
      | 0 =>
        let tooDeep ← withPlugIns.filterM fun candidate => holdsBundles disk candidate.plugIns
        return ⟨candidates, faults ++ tooDeep.map fun candidate =>
          ⟨candidate.relativePath ++ "/" ++ plugInsPath, "bundles nested deeper than " ++
            Decimal.natText maxBundleDepth ++ " levels"⟩⟩
      | levels + 1 =>
        let inner ← withPlugIns.reverse.mapM fun candidate =>
          discoverFrom disk levels (depth + 1) candidate.plugIns
            (candidate.relativePath ++ "/" ++ plugInsPath)
        return inner.foldl .append ⟨candidates, faults⟩

/-- The bundles in the directory of the kexts and their plug-ins, in the order of their paths. -/
def discoverBundles (disk : Disk m) (directory : String) : m BundleDiscovery := do
  let found ← discoverFrom disk (maxBundleDepth - 1) 1 directory ""
  return ⟨found.candidates.mergeSort (fun a b => a.relativePath ≤ b.relativePath),
    found.skipped.mergeSort Skip.le⟩

/-- The descriptor's place in a bundle, if it has one. -/
def descriptorPath? (disk : Disk m) (bundle : String) : m (Option String) := do
  if ← disk.isFile (DiskPath.join (DiskPath.join bundle "Contents") descriptorName) then
    return some ("Contents/" ++ descriptorName)
  if ← disk.isFile (DiskPath.join bundle descriptorName) then return some descriptorName
  return none

inductive DescriptorError where
  | missing
  | unreadable (place : String) (error : OsError)
  | malformed (error : PropertyList.ParseError)
  | notDictionary (place : String)
  | noIdentifier
deriving DecidableEq

def DescriptorError.message : DescriptorError → String
  | .missing => "no " ++ descriptorName ++ " found"
  | .unreadable place error => "cannot read " ++ place ++ ": " ++ error.message
  | .malformed error => error.message
  | .notDictionary place => place ++ " root is not a dictionary"
  | .noIdentifier => "descriptor has no CFBundleIdentifier"

/-- What a descriptor says: the identifier, the name of the executable, and the libraries. -/
structure Descriptor where
  identifier : String
  executable : Option String
  libraries : List String

/-- The descriptor in the bytes of a file at a place in the bundle with the given path. -/
def Descriptor.read (bundle place : String) (bytes : List UInt8) :
    Except DescriptorError Descriptor :=
  match PropertyList.read (bundle ++ "/" ++ place) bytes with
  | .error error => .error (.malformed error)
  | .ok (.dictionary fields) =>
    match fields.text? "CFBundleIdentifier" with
    | none => .error .noIdentifier
    | some identifier =>
      .ok ⟨identifier, fields.text? "CFBundleExecutable",
        (((fields.get? "OSBundleLibraries").bind Node.dictionary?).map Dictionary.keys).getD []⟩
  | .ok _ => .error (.notDictionary place)

/-- Whether a path leads to a file that is not empty. -/
def hasContent (disk : Disk m) (path : String) : m Bool := do
  match ← disk.status path with
  | .ok status => pure (status.kind = .file && status.size ≠ 0)
  | .error _ => pure false

/-- The executable's place in a bundle, if the file that the descriptor names has content. -/
def executablePath? (disk : Disk m) (bundle : String) : Option String → m (Option String)
  | none => pure none
  | some name => do
    let place := "Contents/MacOS/" ++ name
    return if ← hasContent disk (DiskPath.join bundle place) then some place else none

/-- Looks into a bundle: the kext that it holds, or why it holds none. -/
def readBundle (disk : Disk m) (candidate : BundleCandidate) :
    m (Except DescriptorError Component) := do
  match ← descriptorPath? disk candidate.path with
  | none => return .error .missing
  | some place =>
    match ← disk.read (DiskPath.join candidate.path place) with
    | .error error => return .error (.unreadable place error)
    | .ok bytes =>
      match Descriptor.read candidate.relativePath place bytes with
      | .error error => return .error error
      | .ok descriptor =>
        return .ok {
          relativePath := candidate.relativePath
          category := .kext
          executablePath := ← executablePath? disk candidate.path descriptor.executable
          infoPath := some place
          bundleIdentifier := some descriptor.identifier
          libraries := descriptor.libraries }

/-- Looks into a bundle: the kext in it, or a skip with the bundle's path. -/
def inspect (disk : Disk m) (candidate : BundleCandidate) : m (Except Skip Component) := do
  match ← readBundle disk candidate with
  | .ok component => return .ok component
  | .error error => return .error ⟨candidate.relativePath, error.message⟩

end BootSnapshot.Scan
