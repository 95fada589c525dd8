import BootSnapshot.Command.Usage
import BootSnapshot.Text.Pieces

set_option autoImplicit false

namespace BootSnapshot

def programName : String := "ocsnap"

def programVersion : String := "0.3.0"

namespace Help

def about (command : Option CommandName) : Argument → String
  | .workspace => "Directory searched for .ocsnap.toml [default: .]"
  | .config => "Configuration file path (overrides default config loading)"
  | .verbose => "Enable verbose logging"
  | .quiet => "Disable logging entirely"
  | .logLevel => "Log level (trace, debug, info, warn, error, off)"
  | .logFormat => "Log format (json, text)"
  | .logOutput => "Log output (stdout, stderr, file)"
  | .logFile => "Log file path (if output is \"file\")"
  | .help => "Print help"
  | .version => "Print version"
  | .format => "Output format (text or json) [default: text]"
  | .document =>
    match command with
    | some .snapshot => "config.plist to update"
    | some .validate => "config.plist to check"
    | _ => "config.plist to read"
  | .directory => "OC directory to scan (defaults to the document's directory)"
  | .clean => "Rebuild every list from the scan, discarding existing entries"
  | .output => "Write the result here instead of overwriting the document"
  | .dryRun => "Report changes without writing anything"
  | .yes => "Do not ask for confirmation in clean mode"
  | .path => "Node path such as Kernel.Add[0] (whole document when omitted)"
  | .scanRoot => "OC directory (or the EFI folder containing it)"

def sortKey (argument : Argument) : String :=
  match argument.letter? with
  | some letter => String.ofList [letter.toLower, '0']
  | none => argument.longName?.getD ""

/-- Options with their ranks, which are their places among those they belong to. -/
def ranked (options : List Argument) : List (Nat × Argument) :=
  options.zipIdx.map fun (argument, place) => (place, argument)

def listed (options : List (Nat × Argument)) : List Argument :=
  (options.mergeSort fun a b =>
    a.1 < b.1 || a.1 = b.1 && sortKey a.2 ≤ sortKey b.2).map Prod.snd

/-- An option in the left column: its letter, if it has one, and its label. -/
def optionColumn (argument : Argument) : String :=
  match argument.letter? with
  | some letter => String.ofList ['-', letter, ',', ' '] ++ argument.label
  | none => "    " ++ argument.label

/-- Rows of two columns, of which the left one is as wide as its widest text. -/
def rows (pairs : List (String × String)) : List String :=
  let width := (pairs.map (·.1.length)).foldl max 0
  pairs.map fun (left, right) =>
    "  " ++ left ++ String.ofList (List.replicate (width - left.length + 2) ' ') ++ right

/-- A list under its title, after an empty line. -/
def titled (title : String) (pairs : List (String × String)) : List String :=
  ["", title ++ ":"] ++ rows pairs

def optionRows (command : Option CommandName) (options : List Argument) :
    List (String × String) :=
  options.map fun argument => (optionColumn argument, about command argument)

def helpAbout : String := "Print this message or the help of the given subcommand(s)"

def programLines : List String :=
  ["Snapshot an OpenCore EFI folder into config.plist and validate the result", "",
    "Usage: " ++ programName ++ " [OPTIONS] <COMMAND>"] ++
  titled "Commands"
    (CommandName.all.map (fun name => (name.word, name.about)) ++
      [(HelpTopic.helpWord, helpAbout)]) ++
  titled "Options"
    (optionRows none (listed (ranked Argument.shared) ++ [.help, .version]))

def commandLines (name : CommandName) : List String :=
  let subject := Argument.subject name
  let options := listed (ranked (Argument.own name) ++ ranked Argument.shared)
  [name.about, "",
    "Usage: " ++ programName ++ " " ++ name.word ++ " [OPTIONS] " ++ subject.label] ++
  titled "Arguments" [(subject.label, about (some name) subject)] ++
  titled "Options" (optionRows (some name) (options ++ [.help]))

def helpLines : List String :=
  [helpAbout, "", "Usage: " ++ programName ++ " " ++ HelpTopic.helpWord ++ " [COMMAND]..."] ++
  titled "Arguments" [("[COMMAND]...", "Print help for the subcommand(s)")]

def text : HelpTopic → String
  | .program => Text.lines programLines
  | .command name => Text.lines (commandLines name)
  | .help => Text.lines helpLines

end Help
end BootSnapshot
