import BootSnapshot.Command.Basic

set_option autoImplicit false

namespace BootSnapshot

inductive Argument where
  | workspace
  | config
  | verbose
  | quiet
  | logLevel
  | logFormat
  | logOutput
  | logFile
  | help
  | version
  | format
  | document
  | directory
  | clean
  | output
  | dryRun
  | yes
  | path
  /-- The directory of a scan, which stands by itself. -/
  | scanRoot
deriving DecidableEq

namespace Argument

def longName? : Argument → Option String
  | .workspace => some "workspace"
  | .config => some "config"
  | .verbose => some "verbose"
  | .quiet => some "quiet"
  | .logLevel => some "log-level"
  | .logFormat => some "log-format"
  | .logOutput => some "log-output"
  | .logFile => some "log-file"
  | .help => some "help"
  | .version => some "version"
  | .format => some "format"
  | .directory => some "oc"
  | .clean => some "clean"
  | .output => some "output"
  | .dryRun => some "dry-run"
  | .yes => some "yes"
  | .path => some "path"
  | .document | .scanRoot => none

/-- The letter of an option that has one. -/
def letter? : Argument → Option Char
  | .verbose => some 'v'
  | .quiet => some 'q'
  | .help => some 'h'
  | .version => some 'V'
  | .output => some 'o'
  | .yes => some 'y'
  | _ => none

/-- What stands for the value in descriptions; flags have no value. -/
def valueName? : Argument → Option String
  | .workspace => some "WORKSPACE"
  | .config => some "CONFIG"
  | .logLevel => some "LOG_LEVEL"
  | .logFormat => some "LOG_FORMAT"
  | .logOutput => some "LOG_OUTPUT"
  | .logFile => some "LOG_FILE"
  | .format => some "FORMAT"
  | .document => some "DOCUMENT"
  | .directory | .scanRoot => some "OC_DIR"
  | .output => some "OUTPUT"
  | .path => some "PATH"
  | .verbose | .quiet | .help | .version | .clean | .dryRun | .yes => none

/-- Whether a value is the path of a file, which is not empty. -/
def isFilePath : Argument → Bool
  | .workspace | .config | .logFile | .document | .directory | .output | .scanRoot => true
  | _ => false

def isFlag (argument : Argument) : Bool := argument.valueName?.isNone

/-- How an argument is told of: an option by its long name, any other by its value. -/
def label (argument : Argument) : String :=
  match argument.longName?, argument.valueName? with
  | some name, some value => "--" ++ name ++ " <" ++ value ++ ">"
  | some name, none => "--" ++ name
  | none, some value => "<" ++ value ++ ">"
  | none, none => ""

/-- The options that go with any command. -/
def shared : List Argument :=
  [.workspace, .config, .verbose, .quiet, .logLevel, .logFormat, .logOutput, .logFile]

def subject : CommandName → Argument
  | .scan => .scanRoot
  | .snapshot | .validate | .inspect => .document

def own : CommandName → List Argument
  | .scan | .validate => [.format]
  | .snapshot => [.directory, .clean, .output, .dryRun, .yes, .format]
  | .inspect => [.path, .format]

end Argument
end BootSnapshot
