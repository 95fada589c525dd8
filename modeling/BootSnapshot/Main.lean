import BootSnapshot.Command.Program
import BootSnapshot.Text.Moment
import Std.Time.DateTime.Timestamp

set_option autoImplicit false

namespace BootSnapshot.Machine

def osError : IO.Error → OsError
  | .noFileOrDirectory _ _ _ => .notFound
  | .inappropriateType _ code details =>
    if code = 20 then .notDirectory
    else if code = 21 then .isDirectory
    else .other code.toNat details
  | .invalidArgument _ code details =>
    if code = 40 then .tooManyLinks
    else if code = 36 then .nameTooLong
    else .other code.toNat details
  | .permissionDenied _ code details => .other code.toNat details
  | .alreadyExists _ code details => .other code.toNat details
  | .resourceExhausted _ code details => .other code.toNat details
  | .resourceBusy code details => .other code.toNat details
  | .unsupportedOperation code details => .other code.toNat details
  | .unsatisfiedConstraints code details => .other code.toNat details
  | .otherError code details => .other code.toNat details
  | error => .other 5 error.toString

def guarded {α : Type} (operation : IO α) : IO (Except OsError α) := do
  try return .ok (← operation)
  catch error => return .error (osError error)

/-- The kind of an entry; what is no file, directory or link has none here. -/
def kind? : IO.FS.FileType → Option FileKind
  | .file => some .file
  | .dir => some .directory
  | .symlink => some .link
  | .other => none

def kindOf (type : IO.FS.FileType) : IO FileKind :=
  match kind? type with
  | some kind => pure kind
  | none => throw (.otherError 22 "Invalid argument")

/-- The names in a directory with the kinds of what stands at them. -/
def entries (path : String) : IO Listing := do
  let found ← (System.mkFilePath [path]).readDir
  let kinds ← found.toList.mapM fun entry => guarded do
    return (entry.fileName, kind? (← entry.path.symlinkMetadata).type)
  return ⟨kinds.filterMap fun
      | .ok (name, kind) => kind.map (name, ·)
      | .error _ => none,
    kinds.filterMap fun
      | .ok _ => none
      | .error error => some error⟩

def statusOf (path : String) : IO FileStatus := do
  let metadata ← (System.mkFilePath [path]).metadata
  return ⟨← kindOf metadata.type, metadata.byteSize.toNat⟩

def ownKindOf (path : String) : IO FileKind := do
  kindOf (← (System.mkFilePath [path]).symlinkMetadata).type

def readBytes (path : String) : IO (List UInt8) := do
  return (← IO.FS.readBinFile path).toList

def writeBytes (path : String) (bytes : List UInt8) : IO Unit :=
  IO.FS.writeBinFile path bytes.toByteArray

/-- The files of the machine. Paths are no longer than 4096 characters. -/
def storage : Storage IO where
  canonical path := guarded do return (← IO.FS.realPath path).toString
  status path := guarded (statusOf path)
  ownKind path := guarded (ownKindOf path)
  list path := guarded (entries path)
  read path := guarded (readBytes path)
  depthBound := pure 4096
  write path bytes := guarded (writeBytes path bytes)
  copy source destination := guarded do writeBytes destination (← readBytes source)
  rename source destination := guarded (IO.FS.rename source destination)
  createDirectories path := guarded (IO.FS.createDirAll path)
  openLog path := guarded do
    let _ ← IO.FS.Handle.mk path .append
    return ()

/-- The variables in a list of assignments that end with the null character. -/
def assignments (bytes : List UInt8) : Environment :=
  ((Text.pieces '\x00' (Bytes.lossyChars bytes)).filter ('=' ∈ ·)).map fun assignment =>
    (String.ofList (assignment.takeWhile (· ≠ '=')),
      String.ofList ((assignment.dropWhile (· ≠ '=')).drop 1))

def environment : IO Environment := do
  match ← guarded (readBytes "/proc/self/environ") with
  | .ok bytes => return assignments bytes
  | .error _ => return []

def now : IO String := do
  return Text.Moment.timeStamp (← Std.Time.Timestamp.now).toNanosecondsSinceUnixEpoch.val.toNat

/-- Asks a question on the terminal; anything but a yes is a no. -/
def confirm (question : String) : IO (Option Bool) := do
  let screen ← IO.getStderr
  if ! (← screen.isTty) then return none
  screen.putStr (question ++ " [y/N] ")
  screen.flush
  let answer ← (← IO.getStdin).getLine
  return some (Text.lowercase (Text.trim answer) ∈ ["y", "yes"])

def runProgram (words : List String) : IO UInt32 := do
  let host : Host IO := {
    storage := storage
    environment := ← environment
    now := now
    confirm := confirm }
  let outcome ← Program.run host words
  IO.print outcome.stdout
  IO.eprint outcome.stderr
  return UInt32.ofNat outcome.exitCode

end BootSnapshot.Machine

def main (words : List String) : IO UInt32 := BootSnapshot.Machine.runProgram words
