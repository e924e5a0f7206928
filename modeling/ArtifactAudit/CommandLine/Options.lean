import ArtifactAudit.Script.Basic
import ArtifactAudit.Settings.Options
import ArtifactAudit.Text.Similarity
import ArtifactAudit.Text.Terminal

/-!
# Options of the command line

An option is a word that begins with a dash. Its value is the rest of the word
after an equals sign, or the next word. A word `--` ends the options. The words
are first cut into options and others, and a word that names no option or lacks
its value is refused. Then the values are read, each option at the place where it
is given first, with the value given last. Words that are left over are refused
at the end.
-/

set_option autoImplicit false

namespace ArtifactAudit.CommandLine

/-- What can be given by options. -/
inductive Parameter where
  | apiUrl
  | deployment
  | pipelineName
  | pipelineFile
  | podSelector
  | kubeconfig
  | context
  | runTimeout
  | maxWorkers
  | failOnEmpty
  | insecure
  | logLevel
  | help
  deriving DecidableEq, Repr

/-- What the occurrence of an option gives. -/
inductive Given where
  | value (text : String)
  /-- Yes or no. -/
  | truth (value : Bool)
  deriving DecidableEq, Repr

/-- An option: its name, what it is for, and what it gives without a value. An
option for which nothing stands there needs a value. -/
structure Flag where
  name : String
  parameter : Parameter
  /-- What it gives, if it takes no value. -/
  truth : Option Bool := none
  deriving DecidableEq, Repr

/-- All options. -/
def flags : List Flag :=
  [⟨"--api-url", .apiUrl, none⟩, ⟨"--namespace", .deployment, none⟩,
    ⟨"--pipeline-name", .pipelineName, none⟩, ⟨"--pipeline-file", .pipelineFile, none⟩,
    ⟨"--pod-selector", .podSelector, none⟩, ⟨"--kubeconfig", .kubeconfig, none⟩,
    ⟨"--context", .context, none⟩, ⟨"--run-timeout", .runTimeout, none⟩,
    ⟨"--max-workers", .maxWorkers, none⟩, ⟨"--fail-on-empty", .failOnEmpty, some true⟩,
    ⟨"--allow-empty", .failOnEmpty, some false⟩, ⟨"--insecure", .insecure, some true⟩,
    ⟨"--log-level", .logLevel, none⟩, ⟨"--help", .help, some true⟩]

/-- Why a command line is refused. -/
inductive UsageError where
  /-- No option has this name; others have similar ones. -/
  | noSuchOption (name : String) (similar : List String)
  /-- An option lacks its value. -/
  | missingValue (name : String)
  /-- An option has a value that it does not take. -/
  | unwantedValue (name : String)
  /-- A value is not a fractional number. -/
  | notFractional (name text : String)
  /-- A value is not a whole number. -/
  | notWhole (name text : String)
  /-- A file does not exist. -/
  | noFile (name text : String)
  /-- A file is a directory. -/
  | isDirectory (name text : String)
  | leftOver (words : List String)
  /-- The settings cannot be used. -/
  | settings (error : SettingError)
  deriving DecidableEq, Repr

namespace UsageError

/-- The question about similar names. -/
def question : List String → String
  | [] => ""
  | [name] => s!" Did you mean {Text.quoted name}?"
  | names =>
    let sorted := names.mergeSort (· ≤ ·)
    " (Did you mean one of: " ++ ", ".intercalate (sorted.map Text.quoted) ++ "?)"

/-- The message about a refused command line. -/
def message : UsageError → String
  | noSuchOption name similar => s!"No such option {Text.quoted name}." ++ question similar
  | missingValue name => s!"Option {Text.quoted name} requires an argument."
  | unwantedValue name => s!"Option {Text.quoted name} does not take a value."
  | notFractional name text =>
    s!"Invalid value for '{name}': {Text.quoted text} is not a valid float."
  | notWhole name text =>
    s!"Invalid value for '{name}': {Text.quoted text} is not a valid integer."
  | noFile name text => s!"Invalid value for '{name}': File {Text.quoted text} does not exist."
  | isDirectory name text =>
    s!"Invalid value for '{name}': File {Text.quoted text} is a directory."
  | leftOver [word] => s!"Got unexpected extra argument ({word})"
  | leftOver words => "Got unexpected extra arguments (" ++ " ".intercalate words ++ ")"
  | settings error => error.message

/-- The message as it is printed. -/
def printed (error : UsageError) : String :=
  Text.printed error.message

end UsageError

/-! ## Cutting the words -/

/-- A command line cut into options and other words. -/
structure Cut where
  /-- The options, in the order in which they are given. -/
  given : List (Parameter × Given) := []
  others : List String := []
  deriving DecidableEq, Repr

/-- The refusal of a word that names no option. With a single dash only the
letter after it counts. -/
def refuse (word : String) : UsageError :=
  let name := String.ofList (Text.before '=' word.toList)
  match word.toList with
  | '-' :: '-' :: _ => .noSuchOption name (Text.guesses name (flags.map (·.name)))
  | letters => .noSuchOption (String.ofList (letters.take 2)) []

/-- Cuts the words of a command line. -/
def cut : List String → Except UsageError Cut
  | [] => .ok {}
  | "--" :: rest => .ok { others := rest }
  | word :: rest =>
    if word.startsWith "-" && 1 < word.length then
      let name := String.ofList (Text.before '=' word.toList)
      let attached := (Text.after? '=' word.toList).map String.ofList
      match flags.find? (·.name == name) with
      | none => .error (refuse word)
      | some flag =>
        match flag.truth, attached with
        | some truth, none =>
          (cut rest).map fun cut =>
            { cut with given := (flag.parameter, .truth truth) :: cut.given }
        | some _, some _ => .error (.unwantedValue name)
        | none, some value =>
          (cut rest).map fun cut =>
            { cut with given := (flag.parameter, .value value) :: cut.given }
        | none, none =>
          match rest with
          | [] => .error (.missingValue name)
          | value :: rest =>
            (cut rest).map fun cut =>
              { cut with given := (flag.parameter, .value value) :: cut.given }
    else (cut rest).map fun cut => { cut with others := word :: cut.others }

/-! ## Reading the values -/

/-- The parameters of some options, each at its first occurrence, with what is
given for it last. -/
def settle (given : List (Parameter × Given)) : List (Parameter × Given) :=
  (given.map (·.1)).eraseDups.filterMap fun parameter =>
    (given.reverse.lookup parameter).map fun last => (parameter, last)

/-- What a command line asks for. -/
structure Request where
  /-- The settings given as options. -/
  options : Options := {}
  /-- The name of the level of the log. -/
  logLevel : String := "INFO"

/-- Looks up a file that is given. -/
def readFile (name text : String) : Script (Except UsageError String) := do
  match ← Script.perform (.status text) with
  | .missing => return .error (.noFile name text)
  | .directory => return .error (.isDirectory name text)
  | .file => return .ok (Path.ofText text).text
  | .fault fault => .crash fault

def readGiven (request : Request) : Parameter × Given → Script (Except UsageError Request)
  | (.apiUrl, .value text) =>
    return .ok { request with options := { request.options with apiUrl := some text } }
  | (.deployment, .value text) =>
    return .ok { request with options := { request.options with deployment := some text } }
  | (.pipelineName, .value text) =>
    return .ok { request with options := { request.options with pipelineName := some text } }
  | (.pipelineFile, .value text) => do
    return (← readFile "--pipeline-file" text).map fun file =>
      { request with options := { request.options with pipelineFile := some file } }
  | (.podSelector, .value text) =>
    return .ok { request with options := { request.options with podSelector := some text } }
  | (.kubeconfig, .value text) =>
    return .ok { request with options := { request.options with kubeconfig := some text } }
  | (.context, .value text) =>
    return .ok { request with options := { request.options with context := some text } }
  | (.runTimeout, .value text) =>
    match Number.readFractional text with
    | .ok seconds =>
      return .ok { request with options := { request.options with runTimeout := some seconds } }
    | .error _ => return .error (.notFractional "--run-timeout" text)
  | (.maxWorkers, .value text) =>
    match Number.readWhole text with
    | .ok workers =>
      return .ok { request with options := { request.options with maxWorkers := some workers } }
    | .error _ => return .error (.notWhole "--max-workers" text)
  | (.failOnEmpty, .truth value) =>
    return .ok { request with options := { request.options with failOnEmpty := some value } }
  | (.insecure, .truth value) =>
    return .ok { request with options := { request.options with insecure := some value } }
  | (.logLevel, .value text) => return .ok { request with logLevel := text }
  | _ => return .ok request

/-- Reads all that is given. The first value that cannot be read is refused. -/
def readAll (request : Request) : List (Parameter × Given) → Script (Except UsageError Request)
  | [] => return .ok request
  | given :: rest => do
    match ← readGiven request given with
    | .ok request => readAll request rest
    | .error error => return .error error

/-- The request in the words of a command line; nothing if help is asked for. -/
def read (words : List String) : Script (Except UsageError (Option Request)) :=
  match cut words with
  | .error error => return .error error
  | .ok cut =>
    if cut.given.any (·.1 == .help) then return .ok none
    else do
      match ← readAll {} (settle cut.given) with
      | .error error => return .error error
      | .ok request =>
        if cut.others.isEmpty then return .ok (some request)
        else return .error (.leftOver cut.others)

end ArtifactAudit.CommandLine
