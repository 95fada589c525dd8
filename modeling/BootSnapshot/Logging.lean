import BootSnapshot.FileSystem.Disk
import BootSnapshot.Logging.Directive
import BootSnapshot.Settings.Basic
import BootSnapshot.Settings.Environment

set_option autoImplicit false

namespace BootSnapshot

inductive LogFormat where
  | text
  | json
deriving DecidableEq

inductive LogOutput where
  | stdout
  | stderr
  | file (path : String)
deriving DecidableEq

/-- A log that can be set up. -/
structure Logging where
  format : LogFormat
  output : LogOutput
deriving DecidableEq

inductive LoggingError where
  | invalidDirective (directive : String)
  | invalidFormat (format : String)
  | invalidOutput (output : String)
  | directoryNotMade (error : OsError)
  | fileNotOpened (path : String) (error : OsError)
deriving DecidableEq

def LoggingError.message : LoggingError → String
  | .invalidDirective directive => "Invalid log directive: " ++ directive
  | .invalidFormat format =>
    "Invalid log format: " ++ format ++ " (must be 'json' or 'text')"
  | .invalidOutput output =>
    "Invalid log output: " ++ output ++ " (must be 'stdout', 'stderr' or 'file')"
  | .directoryNotMade error => "Failed to create log directory: " ++ error.message
  | .fileNotOpened path error =>
    "Failed to open log file " ++ Text.quoted path ++ ": " ++ error.message

namespace Logging

/-- Whether all parts of a text between commas are directives, empty ones apart. -/
def areDirectives (text : String) : Bool :=
  (Text.pieces ',' text.toList).all fun part => part.isEmpty || isDirective part

/-- The modules with levels in a text, between commas. Parts without a level do not matter. -/
def listedModules (text : String) : List (String × String) :=
  ((Text.pieces ',' text.toList).filter ('=' ∈ ·)).map fun part =>
    (Text.trim (String.ofList (part.takeWhile (· ≠ '='))),
      Text.trim (String.ofList ((part.dropWhile (· ≠ '=')).drop 1)))

def checkModule (named : String × String) : Except LoggingError Unit :=
  let directive := named.1 ++ "=" ++ named.2
  if isDirective directive.toList then .ok () else .error (.invalidDirective directive)

/-- Checks what decides which lines are logged. Directives in the environment stand for all others
if they can be understood, and a log that is off needs none. -/
def checkFilter (environment : Environment) (settings : LoggingSettings) :
    Except LoggingError Unit :=
  if ((environment.get? "OCSNAP_LOG").map areDirectives).getD false || settings.level = "off" then
    .ok ()
  else do
    settings.modules.forM checkModule
    (listedModules ((environment.get? "OCSNAP_LOG_MODULES").getD "")).forM checkModule

def formatNamed? (name : String) : Option LogFormat :=
  if name = "json" then some .json else if name = "text" then some .text else none

/-- The format; a name in the environment counts only if it is that of a format. -/
def chooseFormat (environment : Environment) (settings : LoggingSettings) :
    Except LoggingError LogFormat :=
  match ((environment.get? "OCSNAP_LOG_FORMAT").bind formatNamed?).or
      (formatNamed? settings.format) with
  | some format => .ok format
  | none => .error (.invalidFormat settings.format)

def chooseOutput (environment : Environment) (settings : LoggingSettings) :
    Except LoggingError LogOutput :=
  let name := (environment.get? "OCSNAP_LOG_OUTPUT").getD settings.output
  if name = "stdout" then .ok .stdout
  else if name = "stderr" then .ok .stderr
  else if name = "file" then .ok (.file settings.file)
  else .error (.invalidOutput name)

/-- The log that settings ask for; nothing if they ask for none. What is chosen is checked in the
order filter, format, output. Variables of the environment take precedence. -/
def choose (environment : Environment) (settings : LoggingSettings) :
    Except LoggingError (Option Logging) := do
  if ! settings.isEnabled then return none
  checkFilter environment settings
  let format ← chooseFormat environment settings
  let output ← chooseOutput environment settings
  return some ⟨format, output⟩

variable {m : Type → Type} [Monad m]

/-- Opens the file that a log is written to, in a directory that is made if it is missing. -/
def openFile (storage : Storage m) (path : String) : m (Except LoggingError Unit) := do
  if let some parent := (DiskPath.parent? path).filter (· ≠ "") then
    if let .error error ← storage.createDirectories parent then
      return .error (.directoryNotMade error)
  match ← storage.openLog path with
  | .ok () => return .ok ()
  | .error error => return .error (.fileNotOpened path error)

/-- Sets up the log that settings ask for, and tells whether they ask for one. -/
def start (storage : Storage m) (environment : Environment) (settings : LoggingSettings) :
    m (Except LoggingError Bool) := do
  match choose environment settings with
  | .error error => return .error error
  | .ok none => return .ok false
  | .ok (some logging) =>
    match logging.output with
    | .file path => return (← openFile storage path).map fun () => true
    | _ => return .ok true

end Logging
end BootSnapshot
