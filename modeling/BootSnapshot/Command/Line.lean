import BootSnapshot.Command.Usage

set_option autoImplicit false

namespace BootSnapshot.CommandLine

/-- The words up to the name of a command are read at the level of the program, those behind it at
the level of the command. -/
structure Level where
  topic : HelpTopic
  options : List Argument
  /-- The argument that stands by itself, if there can be one. -/
  subject : Option Argument

namespace Level

def program : Level := ⟨.program, Argument.shared ++ [.help, .version], none⟩

def ofCommand (name : CommandName) : Level :=
  ⟨.command name, Argument.own name ++ Argument.shared ++ [.help], some (Argument.subject name)⟩

end Level

structure Progress where
  /-- The arguments that have been checked, flags with an empty value. -/
  given : List (Argument × String) := []
  /-- The argument that came last, if it is not checked yet, and its value if that has come. -/
  pending : Option (Argument × Option String) := none
  /-- Whether options have ended. -/
  optionsEnded : Bool := false
deriving DecidableEq

namespace Progress

def value? (progress : Progress) (argument : Argument) : Option String :=
  (progress.given.find? (·.1 = argument)).map Prod.snd

def has (progress : Progress) (argument : Argument) : Bool := (progress.value? argument).isSome

def give (progress : Progress) (argument : Argument) (value : String) :
    Except UsageError Progress :=
  if progress.has argument then .error (.givenTwice argument)
  else if argument.isFilePath ∧ value = "" then .error (.emptyPath argument)
  else .ok { progress with given := progress.given ++ [(argument, value)] }

/-- Checks the argument that came last. An argument whose value has come is checked only when the
next one comes or the level ends, so of two mistakes the later one may count. -/
def settle (progress : Progress) : Except UsageError Progress :=
  match progress.pending with
  | none => .ok progress
  | some (argument, none) => .error (.valueMissing argument)
  | some (argument, some value) => { progress with pending := none }.give argument value

/-- Whether the next word is the value of an option. -/
def awaitsValue (progress : Progress) : Bool :=
  match progress.pending with
  | some (_, none) => true
  | _ => false

def attach (progress : Progress) (argument : Argument) (value : List Char) :
    Except UsageError Progress := do
  (← progress.settle).give argument (String.ofList value)

def await (progress : Progress) (argument : Argument) : Except UsageError Progress := do
  return { ← progress.settle with pending := some (argument, none) }

/-- A flag. The one for help and the one for the version end the reading. -/
def raise (level : Level) (progress : Progress) (argument : Argument) :
    Except UsageError Progress := do
  let settled ← progress.settle
  match argument with
  | .help => .error (.helpWanted level.topic)
  | .version => .error .versionWanted
  | _ => settled.give argument ""

/-- An option by its long name, which may have a value behind an equals sign. -/
def takeLong (level : Level) (progress : Progress) (body : List Char) :
    Except UsageError Progress :=
  let name := String.ofList (body.takeWhile (· ≠ '='))
  let value := if '=' ∈ body then some ((body.dropWhile (· ≠ '=')).drop 1) else none
  match level.options.find? (·.longName? = some name), value with
  | none, _ => .error (.unknownArgument ("--" ++ name))
  | some argument, some value =>
    if argument.isFlag then .error (.valueNotWanted argument) else progress.attach argument value
  | some argument, none =>
    if argument.isFlag then progress.raise level argument else progress.await argument

/-- Options by their letters, of which the last may have its value behind it. -/
def takeLetters (level : Level) (progress : Progress) : List Char → Except UsageError Progress
  | [] => .ok progress
  | letter :: rest =>
    match level.options.find? (·.letter? = some letter) with
    | none => .error (.unknownArgument (String.ofList ['-', letter]))
    | some argument =>
      if argument.isFlag then do takeLetters level (← progress.raise level argument) rest
      else
        match rest with
        | [] => progress.await argument
        | '=' :: value => progress.attach argument value
        | value => progress.attach argument value

/-- A word that stands by itself. After the end of options the name of a command is no name. -/
def takeSubject (level : Level) (progress : Progress) (word : String) :
    Except UsageError Progress :=
  match level.subject with
  | some argument =>
    if progress.has argument ∨ progress.pending.any (·.1 = argument) then
      .error (.unknownArgument word)
    else do return { ← progress.settle with pending := some (argument, some word) }
  | none =>
    if progress.optionsEnded ∧ (HelpTopic.ofWord? word).isSome then .error (.unknownArgument word)
    else .error (.unknownCommand word)

/-- A word that is neither an option nor the end of options. -/
def takePlain (level : Level) (progress : Progress) (word : String) :
    Except UsageError Progress :=
  match progress.pending with
  | some (argument, none) => .ok { progress with pending := some (argument, some word) }
  | _ => progress.takeSubject level word

def take (level : Level) (progress : Progress) (word : String) : Except UsageError Progress :=
  if progress.optionsEnded then progress.takeSubject level word
  else
    match word.toList with
    | ['-', '-'] => .ok { progress with optionsEnded := true }
    | '-' :: '-' :: body => progress.takeLong level body
    | ['-'] => progress.takePlain level word
    | '-' :: letters => progress.takeLetters level letters
    | _ => progress.takePlain level word

/-- Checks that arguments that exclude one another are not both given. -/
def checkExclusive (progress : Progress) : Except UsageError Unit :=
  if progress.has .quiet && progress.has .verbose then .error (.exclusive .quiet .verbose)
  else .ok ()

end Progress

/-- What is given at the level of a command, which needs the argument that stands by itself. -/
def readCommand (name : CommandName) (words : List String) :
    Except UsageError (Progress × String) := do
  let progress ← (← words.foldlM (Progress.take (.ofCommand name)) {}).settle
  progress.checkExclusive
  match progress.value? (Argument.subject name) with
  | some subject => return (progress, subject)
  | none => .error (.subjectMissing (Argument.subject name))

/-- The options for any command: what is given behind its name counts before what is given in front
of it. -/
def sharedOptions (inner outer : Progress) : GlobalOptions :=
  let value? (argument : Argument) := (inner.value? argument).or (outer.value? argument)
  let has (argument : Argument) := inner.has argument || outer.has argument
  let default : GlobalOptions := {}
  { workspace := (value? .workspace).getD default.workspace
    config := value? .config
    verbose := has .verbose
    quiet := has .quiet
    logLevel := value? .logLevel
    logFormat := value? .logFormat
    logOutput := value? .logOutput
    logFile := value? .logFile }

def commandOf (name : CommandName) (inner : Progress) (subject : String) : Command :=
  match name with
  | .scan => .scan subject
  | .snapshot => .snapshot {
      document := subject
      directory := inner.value? .directory
      clean := inner.has .clean
      output := inner.value? .output
      dryRun := inner.has .dryRun
      yes := inner.has .yes }
  | .validate => .validate subject
  | .inspect => .inspect subject (inner.value? .path)

/-- The answer to the word that asks for help and to the words behind it. -/
def helpAnswer : List String → UsageError
  | [] => .helpWanted .program
  | word :: rest =>
    match HelpTopic.ofWord? word, rest with
    | some topic, [] => .helpWanted topic
    | some _, next :: _ => .unknownCommand next
    | none, _ => .unknownCommand word

/-- Reads words at the level of the program, given what came before them. -/
def readWords (outer : Progress) : List String → Except UsageError Invocation
  | [] => do
    let settled ← outer.settle
    if settled.given = [] then .error .nothingGiven else .error .commandMissing
  | word :: rest =>
    let topic :=
      if outer.optionsEnded || outer.awaitsValue then none else HelpTopic.ofWord? word
    match topic with
    | some (.command name) => do
      let (inner, subject) ← readCommand name rest
      let settled ← outer.settle
      settled.checkExclusive
      return {
        command := commandOf name inner subject
        format := (inner.value? .format).getD "text"
        options := sharedOptions inner settled }
    | some _ => .error (helpAnswer rest)
    | none => do readWords (← outer.take .program word) rest

def read (words : List String) : Except UsageError Invocation := readWords {} words

end BootSnapshot.CommandLine
