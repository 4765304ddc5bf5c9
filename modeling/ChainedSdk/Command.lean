/-
# The command line

    gql-sdkgen generate -d ./operations -o ./sdk.py --sdk-name Linear

The command reads the documents of a file or directory, generates the module,
and writes it. Arguments are options, with their values in the next argument,
after an equals sign, or, for one-letter options, right behind the letter. Of
an option that is given twice the last value counts. Two options can stand
before the name of the command, and ask for its usage or version instead; of
those the first one counts. A run starts on a tree of
files and may change it on its way, and what it has done before it fails stays
done; but it writes nothing before all the rest has succeeded.

Key definitions: `Switch`, `RootSwitch`, `Invocation`, `Request.parse`,
`Command`, `CommandRun`, `Invocation.run`, `runCommand`.
-/
import ChainedSdk.Config.Reader
import ChainedSdk.DocumentFiles
import ChainedSdk.Generator

namespace ChainedSdk

/-! ### Options -/

/-- The options of the command. -/
inductive Switch where
  | documents
  | output
  | config
  | sdkName
  | typesModule
  | typesNamespace
  | documentsModule
  | documentsNamespace
  | header
  | verbose
  | help
deriving DecidableEq, Repr

namespace Switch

/-- All options, in the order in which they are shown. -/
def all : List Switch :=
  [documents, output, config, sdkName, typesModule, typesNamespace, documentsModule,
    documentsNamespace, header, verbose, help]

/-- The long name of an option. -/
def longName : Switch → String
  | documents => "--documents"
  | output => "--output"
  | config => "--config"
  | sdkName => "--sdk-name"
  | typesModule => "--types-module"
  | typesNamespace => "--types-namespace"
  | documentsModule => "--documents-module"
  | documentsNamespace => "--documents-namespace"
  | header => "--header"
  | verbose => "--verbose"
  | help => "--help"

/-- The letter of an option that has one. -/
def letter? : Switch → Option Char
  | documents => some 'd'
  | output => some 'o'
  | config => some 'c'
  | verbose => some 'v'
  | _ => none

/-- The option has a value. -/
def takesValue : Switch → Bool
  | verbose => false
  | help => false
  | _ => true

end Switch

/-- The options that can stand before the name of the command. -/
inductive RootSwitch where
  | version
  | help
deriving DecidableEq, Repr

namespace RootSwitch

/-- All options before the command. -/
def all : List RootSwitch := [version, help]

/-- The name of an option before the command. -/
def longName : RootSwitch → String
  | version => "--version"
  | help => "--help"

end RootSwitch

/-- What is wrong with the arguments. -/
inductive UsageError where
  | noCommand
  | unknownCommand (name : String)
  | unknownOption (name : String)
  | missingValue (s : Switch)
  | unexpectedValue (name : String)
  | missingOption (s : Switch)
  | extraArgument (text : String)
  | missingPath (s : Switch) (path : String)
  | notFile (s : Switch) (path : String)
deriving DecidableEq, Repr

/-- The error in words. -/
def UsageError.message : UsageError → String
  | noCommand => "Missing command."
  | unknownCommand name => "No such command '" ++ name ++ "'."
  | unknownOption name => "No such option: " ++ name
  | missingValue s => "Option '" ++ s.longName ++ "' requires an argument."
  | unexpectedValue name => "Option '" ++ name ++ "' does not take a value."
  | missingOption s => "Missing option '" ++ s.longName ++ "'."
  | extraArgument text => "Got unexpected extra argument (" ++ text ++ ")"
  | missingPath s path =>
    "Invalid value for '" ++ s.longName ++ "': Path '" ++ path ++ "' does not exist."
  | notFile s path =>
    "Invalid value for '" ++ s.longName ++ "': File '" ++ path ++ "' is a directory."

/-- The argument is read as options. -/
def isOption (arg : String) : Bool :=
  Text.startsWith arg "-" && arg ≠ "-"

/-- The options that were given, with their values, and the other arguments. -/
structure Given where
  values : List (Switch × String) := []
  others : List String := []
deriving DecidableEq, Repr

namespace Given

/-- The value of an option. -/
def value? (g : Given) (s : Switch) : Option String :=
  Assoc.get? s g.values

/-- With one more option. -/
def set (g : Given) (s : Switch) (value : String) : Given :=
  { g with values := Assoc.put s value g.values }

/-- Takes options in from one argument, given by their letters. The result
tells which option waits for the next argument. -/
def takeLetters (g : Given) : List Char → Except UsageError (Given × Option Switch)
  | [] => .ok (g, none)
  | c :: rest =>
    match Switch.all.find? fun s => s.letter? = some c with
    | none => .error (.unknownOption (String.ofList ['-', c]))
    | some s =>
      if !s.takesValue then takeLetters (g.set s "") rest
      else if rest.isEmpty then .ok (g, some s)
      else .ok (g.set s (String.ofList rest), none)

/-- Takes an option in from one argument that starts with a hyphen. -/
def takeOption (g : Given) (arg : String) : Except UsageError (Given × Option Switch) :=
  let cs := arg.toList
  let name := String.ofList (cs.takeWhile (· ≠ '='))
  match Switch.all.find? fun s => s.longName = name, cs.dropWhile (· ≠ '=') with
  | some s, [] => if s.takesValue then .ok (g, some s) else .ok (g.set s "", none)
  | some s, _ :: value =>
    if s.takesValue then .ok (g.set s (String.ofList value), none)
    else .error (.unexpectedValue name)
  | none, _ =>
    if Text.startsWith arg "--" then .error (.unknownOption name) else g.takeLetters (cs.drop 1)

/-- Takes arguments in; `waiting?` is the option that the next one is the
value of. -/
def takeAll (g : Given) (waiting? : Option Switch) : List String → Except UsageError Given
  | [] =>
    match waiting? with
    | some s => .error (.missingValue s)
    | none => .ok g
  | arg :: rest =>
    match waiting? with
    | some s => takeAll (g.set s arg) none rest
    | none =>
      if arg = "--" then .ok { g with others := g.others ++ rest }
      else if isOption arg then
        match g.takeOption arg with
        | .ok (g, waiting?) => takeAll g waiting? rest
        | .error e => .error e
      else takeAll { g with others := g.others ++ [arg] } none rest

end Given

/-! ### Invocations -/

/-- What the command is asked to do. -/
structure Invocation where
  documents : String
  output : String
  config? : Option String := none
  overrides : List (String × String) := []
  header? : Option String := none
  verbose : Bool := false
deriving DecidableEq, Repr

/-- What the arguments ask for. -/
inductive Request where
  | help
  | version
  | generate (i : Invocation)
deriving DecidableEq, Repr

namespace RootSwitch

/-- Reads one argument as an option before the command. -/
def read (arg : String) : Except UsageError RootSwitch :=
  let cs := arg.toList
  let name := String.ofList (cs.takeWhile (· ≠ '='))
  match all.find? fun s => s.longName = name, cs.dropWhile (· ≠ '=') with
  | some s, [] => .ok s
  | some _, _ :: _ => .error (.unexpectedValue name)
  | none, _ =>
    .error (.unknownOption (if Text.startsWith arg "--" then name else String.ofList (cs.take 2)))

/-- The options before the command, and the arguments after them. -/
def takeAll : List String → Except UsageError (List RootSwitch × List String)
  | [] => .ok ([], [])
  | arg :: rest =>
    if arg = "--" then .ok ([], rest)
    else if isOption arg then do
      let s ← read arg
      let (more, rest) ← takeAll rest
      return (s :: more, rest)
    else .ok ([], arg :: rest)

/-- What an option before the command asks for. -/
def request : RootSwitch → Request
  | version => .version
  | help => .help

end RootSwitch

/-- The options that replace settings, with the keys of these. -/
def overridingSwitches : List (Switch × String) :=
  [(.sdkName, "sdk_name"), (.typesModule, "types_module"), (.typesNamespace, "types_namespace"),
    (.documentsModule, "documents_module"), (.documentsNamespace, "documents_namespace")]

/-- What the options ask for. An option that is missing is found before an argument too
many, and both before the files are looked at, though of the values the command checks
the given ones first: the order decides which of several errors is told, all of which
end the run alike. -/
def Given.request (g : Given) : Except UsageError Request :=
  if (g.value? .help).isSome then .ok .help
  else
    match g.value? .documents, g.value? .output, g.others with
    | none, _, _ => .error (.missingOption .documents)
    | _, none, _ => .error (.missingOption .output)
    | _, _, extra :: _ => .error (.extraArgument extra)
    | some documents, some output, [] =>
      .ok (.generate {
        documents, output
        config? := g.value? .config
        overrides := overridingSwitches.filterMap fun (s, key) => (g.value? s).map (key, ·)
        header? := g.value? .header
        verbose := (g.value? .verbose).isSome })

/-- What the arguments ask for. -/
def Request.parse (args : List String) : Except UsageError Request := do
  let (switches, rest) ← RootSwitch.takeAll args
  match switches, rest with
  | s :: _, _ => return s.request
  | [], [] => throw .noCommand
  | [], name :: args =>
    if name = "generate" then
      let given ← Given.takeAll {} none args
      given.request
    else
      -- After two hyphens a name may look like an option, and is read as one then.
      match ← RootSwitch.takeAll rest with
      | (s :: _, _) => return s.request
      | ([], _) => throw (.unknownCommand name)

/-! ### Runs -/

/-- Why a run failed. -/
inductive CommandError where
  | usage (e : UsageError)
  | config (es : List ConfigError)
  | document (e : GraphQL.SyntaxError)
  | generation (e : GenerationError)
  | write (e : WriteError)
deriving DecidableEq, Repr

namespace CommandError

/-- The exit code of a run that failed. -/
def exitCode : CommandError → Nat
  | usage _ => 2
  | _ => 1

/-- A fault of a configuration in words. -/
def configLine (e : ConfigError) : String :=
  Text.joinWith "." e.path ++ ": " ++ e.fault.message?.getD e.fault.code

/-- The error in words. -/
def message : CommandError → String
  | usage e => e.message
  | config es => Text.joinWith "\n" (es.map configLine)
  | document e => e.message
  | generation e => e.message
  | write .isDirectory => "The output is a directory"
  | write _ => "The directory of the output is a file"

end CommandError

/-- How far a run has come: the files as they are now, the lines it has printed, and
what was reported. -/
structure Progress where
  files : FileTree
  lines : List String := []
  log : List LogRecord := []

/-- A part of a run. What it has done before it fails stays done. -/
abbrev Command := ExceptT CommandError (StateM Progress)

namespace Command

/-- The files as they are now. -/
def files : Command FileTree :=
  return (← get).files

/-- Prints lines. -/
def print (lines : List String) : Command Unit :=
  modify fun p => { p with lines := p.lines ++ lines }

/-- Reports something. -/
def report (records : List LogRecord) : Command Unit :=
  modify fun p => { p with log := p.log ++ records }

/-- Goes on with a value, or fails for the reason there is none. -/
def check {ε α : Type} (reason : ε → CommandError) : Except ε α → Command α
  | .ok a => return a
  | .error e => throw (reason e)

/-- Writes a text to a file, and makes the directories that it is in. -/
def write (path : Path) (text : String) : Command Unit := do
  let files ← check .write ((← files).write path text)
  modify fun p => { p with files }

end Command

/-- A run: how far it has come in the end, and whether it succeeded. -/
structure CommandRun extends Progress where
  outcome : Except CommandError Unit

/-- The exit code of a run. -/
def CommandRun.exitCode (r : CommandRun) : Nat :=
  match r.outcome with
  | .ok _ => 0
  | .error e => e.exitCode

/-- The run of a command on a tree of files. -/
def Command.start (x : Command Unit) (t : FileTree) : CommandRun :=
  let (outcome, progress) := x.run.run { files := t }
  { progress with outcome }

namespace Invocation

variable (i : Invocation)

/-- The text of the configuration file, if there is one. The documents have to
be there, and the configuration has to be a file; where neither is so, it is the
documents that are told to be missing, though the command checks the two in the order
in which they were given. -/
def configText? (t : FileTree) (current : Path) : Except UsageError (Option String) :=
  if (t.locate? current i.documents).isNone then .error (.missingPath .documents i.documents)
  else
    match i.config? with
    | none => .ok none
    | some path =>
      match (t.locate? current path).bind t.find? with
      | some (.file text) => .ok (some text)
      | some (.directory _) => .error (.notFile .config path)
      | none => .error (.missingPath .config path)

/-- The configuration of a file, or the default one, with the settings that
options replace. -/
def config (text? : Option String) : Except (List ConfigError) Config := do
  let base ←
    match text? with
    | some text => (Config.parse text).map (·.config)
    | none => .ok {}
  if i.overrides.isEmpty then return base
  else (base.override (i.overrides.map fun o => (o.1, .string o.2))).map (·.config)

/-- The path of the output. -/
def outputPath (current : Path) : Path :=
  Path.resolve current i.output

/-- The generator of a document. -/
def generator (current : Path) (document : GraphQL.Document) (c : Config) : Generator :=
  { Generator.create document c with
    headers := (present i.header?).toList
    filename := (i.outputPath current).getLastD "" }

/-- The lines before anything is read. -/
def openingLines (current : Path) : List String :=
  (if i.verbose then
    ["Documents: " ++ (Path.resolve current i.documents).text,
      "Output: " ++ (i.outputPath current).text]
  else []) ++ ["Loading documents..."]

/-- The number of operations with a role of each kind. -/
def countLines (os : List SdkOperation) : List String :=
  [(Level.root, "Root"), (Level.parent, "Parent"), (Level.child, "Child")].map fun (level, word) =>
    "  " ++ word ++ " operations: " ++ toString (os.countP fun o => o.role.level == level)

/-- The lines after the module was written. -/
def closingLines (current : Path) (g : Generator) : List String :=
  (if i.verbose then countLines g.operations else [])
    ++ ["Done! Generated " ++ toString g.apis.length ++ " scoped apis with "
          ++ toString (g.apis.flatMap (·.operations)).length ++ " operations.",
        "Output: " ++ (i.outputPath current).text]

/-- Loads the documents. -/
def load (current : Path) : Command GraphQL.Document := do
  let path := (Path.resolve current i.documents).text
  let loading := loadDocuments ((← Command.files).sources current path)
  Command.report loading.log
  Command.check .document loading.outcome

/-- Generates the module of a document, and gives its text and the generator
afterwards. -/
def generate (current : Path) (document : GraphQL.Document) (c : Config) :
    Command (String × Generator) := do
  let (outcome, g) := (i.generator current document c).generate
  Command.report g.log
  let text ← Command.check .generation outcome
  return (text, g)

/-- All that comes before the output is written. -/
def prepare (current : Path) : Command (String × Generator) := do
  let text? ← Command.check .usage (i.configText? (← Command.files) current)
  let c ← Command.check .config (i.config text?)
  Command.print (i.openingLines current)
  let document ← i.load current
  Command.print ["Generating sdk..."]
  i.generate current document c

/-- Generates a module and writes it. -/
def run (current : Path) : Command Unit := do
  let (text, g) ← i.prepare current
  Command.write (i.outputPath current) text
  Command.print (i.closingLines current g)

end Invocation

/-- The lines that say how to use the command. -/
def usageLines : List String :=
  "Usage: gql-sdkgen generate [OPTIONS]" :: "" :: "Options:"
    :: Switch.all.map fun s =>
      "  " ++ (match s.letter? with
        | some c => String.ofList ['-', c] ++ ", "
        | none => "")
        ++ s.longName ++ (if s.takesValue then " TEXT" else "")

/-- The line that tells the version. -/
def versionLine : String := "gql-sdkgen, version 0.1.0"

/-- Does what is asked for. -/
def Request.run (current : Path) : Request → Command Unit
  | help => Command.print usageLines
  | version => Command.print [versionLine]
  | generate i => i.run current

/-- Runs the command with arguments on a tree of files. -/
def runCommand (t : FileTree) (current : Path) (args : List String) : CommandRun :=
  let command : Command Unit := do
    let request ← Command.check .usage (Request.parse args)
    request.run current
  command.start t

end ChainedSdk
