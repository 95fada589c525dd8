import BootSnapshot.Command.Help
import BootSnapshot.Command.Line
import BootSnapshot.Command.Run

set_option autoImplicit false

namespace BootSnapshot

structure Outcome where
  exitCode : Nat
  stdout : String := ""
  stderr : String := ""
deriving DecidableEq

namespace Program

def failure (text : String) : Outcome := { exitCode := 1, stderr := text ++ "\n" }

/-- The end of a run whose command line gives no command. -/
def usageOutcome (error : UsageError) : Outcome :=
  match error with
  | .helpWanted topic => { exitCode := error.exitCode, stdout := Help.text topic ++ "\n" }
  | .versionWanted =>
    { exitCode := error.exitCode, stdout := programName ++ " " ++ programVersion ++ "\n" }
  | .nothingGiven => { exitCode := error.exitCode, stderr := Help.text .program ++ "\n" }
  | other =>
    { exitCode := error.exitCode
      stderr := "error: " ++ other.message ++ "\n\nFor more information, try '--help'.\n" }

/-- The settings of the log, of which each can be given by an option. A log file means that lines
go to it, unless an output is given too. -/
def loggingSettings (settings : LoggingSettings) (options : GlobalOptions) : LoggingSettings :=
  { settings with
    isEnabled := settings.isEnabled && ! options.quiet
    level := options.logLevel.getD (if options.verbose then "debug" else settings.level)
    format := options.logFormat.getD settings.format
    output := options.logOutput.getD (if options.logFile.isSome then "file" else settings.output)
    file := options.logFile.getD settings.file }

variable {m : Type → Type} [Monad m]

/-- The settings for a run: those of the named file, or else those of the workspace. -/
def loadSettings (host : Host m) (options : GlobalOptions) : m (Except SettingsError Settings) :=
  match options.config with
  | some path => Settings.loadFile host.storage.toDisk host.environment path
  | none => Settings.load host.storage.toDisk host.environment options.workspace

/-- What settings were to be loaded for. -/
def settingsSource (options : GlobalOptions) : String :=
  match options.config with
  | some path => "from " ++ path
  | none => "for workspace " ++ options.workspace

def commandOutcome : Except CommandError CommandOutput → Outcome
  | .ok output =>
    { exitCode := if output.isSuccess then 0 else 1, stdout := output.rendered ++ "\n" }
  | .error error => failure error.shown

def runInvocation (host : Host m) (invocation : Invocation) : m Outcome := do
  match ← loadSettings host invocation.options with
  | .error error =>
    return failure ("Failed to load configuration " ++ settingsSource invocation.options ++ ": " ++
      CommandError.message (.settings error))
  | .ok settings =>
    match ← Logging.start host.storage host.environment
        (loggingSettings settings.logging invocation.options) with
    | .error error =>
      return failure ("Failed to initialize logging: " ++ CommandError.message (.logging error))
    | .ok _ =>
      return commandOutcome
        (← (invocation.command.run host settings invocation.format).run)

def run (host : Host m) (words : List String) : m Outcome :=
  match CommandLine.read words with
  | .error error => pure (usageOutcome error)
  | .ok invocation => runInvocation host invocation

end Program
end BootSnapshot
