import BootSnapshot.Command.Argument

set_option autoImplicit false

namespace BootSnapshot

inductive HelpTopic where
  | program
  | command (name : CommandName)
  /-- Help itself. -/
  | help
deriving DecidableEq

namespace HelpTopic

def helpWord : String := "help"

def ofWord? (word : String) : Option HelpTopic :=
  if word = helpWord then some .help else (CommandName.ofWord? word).map .command

end HelpTopic

inductive UsageError where
  | helpWanted (topic : HelpTopic)
  | versionWanted
  | nothingGiven
  | commandMissing
  | unknownCommand (word : String)
  | unknownArgument (word : String)
  /-- An option without the value that it needs. -/
  | valueMissing (argument : Argument)
  | emptyPath (argument : Argument)
  /-- A flag with a value. -/
  | valueNotWanted (argument : Argument)
  | givenTwice (argument : Argument)
  | exclusive (argument other : Argument)
  | subjectMissing (argument : Argument)
deriving DecidableEq

namespace UsageError

def message : UsageError → String
  | .helpWanted _ => "help is wanted"
  | .versionWanted => "the version is wanted"
  | .nothingGiven | .commandMissing => "a command is required but none was provided"
  | .unknownCommand word => "unrecognized command '" ++ word ++ "'"
  | .unknownArgument word => "unexpected argument '" ++ word ++ "' found"
  | .valueMissing argument =>
    "a value is required for '" ++ argument.label ++ "' but none was supplied"
  | .emptyPath argument => "a value is required for '" ++ argument.label ++ "' but it is empty"
  | .valueNotWanted argument => "unexpected value for '" ++ argument.label ++ "' found"
  | .givenTwice argument =>
    "the argument '" ++ argument.label ++ "' cannot be used multiple times"
  | .exclusive argument other =>
    "the argument '" ++ argument.label ++ "' cannot be used with '" ++ other.label ++ "'"
  | .subjectMissing argument =>
    "the following required arguments were not provided: " ++ argument.label

/-- Only to ask for help or for the version is a success. -/
def exitCode : UsageError → Nat
  | .helpWanted _ | .versionWanted => 0
  | _ => 2

end UsageError
end BootSnapshot
