/-
This file runs the program: what it writes, where, and with which exit code. The files and the
network are those of a world that is given, so that nothing here depends on a machine.
-/

import Banana.CommandLine.Arguments
import Banana.Grammar.Wire
import Banana.Report.Render
import Banana.Session.Online
import Banana.Text.Quoted

namespace Banana.CommandLine

open Backend Http

/-- What a program finds around it: the bytes of files, or why a file has none, and a network. -/
structure World (m : Type → Type) where
  bytesOf : String → m (Except String (List UInt8))
  network : Network m

/-- What the program leaves behind. -/
structure Output where
  exitCode : Nat
  stdout : String
  stderr : String
  deriving DecidableEq

/-- A success with some text. -/
def Output.success (text : String) : Output := ⟨0, text, ""⟩

/-- A failure with a line that says why. -/
def Output.failure (message : String) : Output := ⟨1, "", message ++ "\n"⟩

/-- The line about the version. -/
def versionLine : String := "banana 0.1.0\n"

/-- The lines about the use of the program. -/
def usage : String :=
  "Usage: banana [OPTIONS] <grammar|highlight|types|complete|check|submit> [FILE]\n"

/-- A value as lines of JSON. -/
def jsonLines (value : Json) : String :=
  value.toPrettyText ++ "\n"

/-- A token as a line: its place, its class and its text. -/
def tokenLine (source : String) (token : Highlight.Token) : String :=
  let start := token.span.start
  let field (width : Nat) (text : String) := Text.padRight width text.toList
  String.ofList <|
    Text.padLeft 4 (toString start.line).toList ++ ':' :: field 4 (toString start.column) ++
      ' ' :: field 24 token.kind.name ++ ' ' :: Text.quoted (token.text source).toList ++ ['\n']

/-- The lines about the tokens of a source that mean something. -/
def tokenLines (source : String) (tokens : List Highlight.Token) : String :=
  String.join ((tokens.filter fun token => !token.kind.isTrivia).map (tokenLine source))

/-- The lines about a type table. -/
def tableLines (table : Schema.TypeTable) : String :=
  let lines := table.entries.map fun (name, type) => name ++ ": " ++ type.display ++ "\n"
  (if table.isEmpty then "No variables\n" else "") ++ String.join lines

/-- The output for a report on a file. -/
def reportOutput (name source : String) (report : Report) : Output :=
  let markers := report.markers
  let warnings := toString report.warnings.length ++ " warning(s)"
  let rendered :=
    if markers.isEmpty then "" else Report.renderAll .ansi ⟨name, source⟩ markers ++ "\n"
  if report.hasErrors then
    ⟨1, "", rendered ++ toString report.errors.length ++ " error(s), " ++ warnings ++ "\n"⟩
  else
    ⟨0, "[ok] " ++ name ++ " type checks (" ++ warnings ++ ")\n", rendered⟩

/-- The output for a grammar, with the settings of the editor. -/
def grammarOutput (grammar : Grammar) : Output :=
  .success (jsonLines (.object [("grammar", grammar.toJson),
    ("languageConfiguration", Grammar.EditorSettings.language.toJson)]))

variable {m : Type → Type} [Monad m]

/-- A configuration with the options of the command line put over it. -/
def Options.apply (options : Options) (config : Config) : Config :=
  { config with
    baseUrl := options.server.getD config.baseUrl
    retries := (options.retries.map Nat.toUInt32).getD config.retries
    timeout := options.timeout <|> config.timeout }

/-- The bytes of a file; where there are none, what is said about the reason. -/
def readBytes (world : World m) (name : String) (complaint : String → String) :
    ExceptT String m (List UInt8) :=
  ExceptT.mk do
    match ← world.bytesOf name with
    | .ok bytes => pure (.ok bytes)
    | .error reason => pure (.error (complaint reason))

/-- What is said about a configuration that can not be used. -/
def configComplaint (failure : Failure) : String :=
  "Error reading config: " ++ failure.message

/-- The configuration that the options ask for. -/
def readConfig (world : World m) (options : Options) : ExceptT String m Config := do
  match options.config with
  | none => pure (options.apply .default)
  | some name =>
    let bytes ← readBytes world name fun reason => configComplaint (.file reason)
    match Config.ofFile? name bytes with
    | .ok config => pure (options.apply config)
    | .error failure => throw (configComplaint failure)

/-- The text of a file. -/
def readSource (world : World m) (name : String) : ExceptT String m String := do
  let bytes ← readBytes world name ("Error reading file: " ++ ·)
  match Text.decodeUtf8? bytes with
  | some text => pure (String.ofList text)
  | none => throw "Error reading file: stream did not contain valid UTF-8"

/-- Makes a call, and gives its outcome where it has a single one. -/
def call (world : World m) (config : Config) (session : Session) (call : Session.Call) :
    ExceptT String m (Session × Option Session.Outcome) := do
  let (session, result) ← (session.perform world.network config call : m _)
  match result with
  | some (.single outcome) => pure (session, some outcome)
  | _ => pure (session, none)

/-- Runs a command. -/
def runCommand (world : World m) (config : Config) (command : Command) :
    ExceptT String m Output := do
  let session := Session.ofConfig config
  match command with
  | .grammar =>
    let (session, _) ← call world config session .loadCatalog
    pure (grammarOutput session.grammar)
  | .highlight file =>
    let source ← readSource world file
    let (session, _) ← call world config session .loadCatalog
    match session.highlight source with
    | .ok tokens => pure (.success (tokenLines source tokens))
    | .error fault => throw ("Invalid grammar: " ++ fault.message)
  | .types file =>
    let source ← readSource world file
    match ← call world config session (.refresh source) with
    | (_, some (.failed failure)) => throw ("Type table refresh failed: " ++ failure.message)
    | (session, _) => pure (.success (tableLines session.table))
  | .complete file line column =>
    let source ← readSource world file
    let (session, _) ← call world config session .loadCatalog
    let (session, _) ← call world config session (.refresh source)
    let candidates := session.completeAt source line column
    pure (.success (jsonLines (.array (candidates.map Completion.Candidate.toJson))))
  | .check file =>
    let source ← readSource world file
    match ← call world config session (.typecheck source) with
    | (_, some (.checked (some report))) => pure (reportOutput file source report)
    | _ => throw "Type check failed"
  | .submit file =>
    let source ← readSource world file
    match ← call world config session (.submit source) with
    | (_, some (.submitted report)) => pure (.success (jsonLines report.toJson))
    | (_, some (.failed failure)) => throw ("Submit failed: " ++ failure.message)
    | _ => throw "Submit failed"

/-- Runs the program. -/
def run (world : World m) (arguments : List String) : m Output := do
  match Invocation.ofArguments? arguments with
  | none => pure ⟨2, "", usage⟩
  | some .version => pure (.success versionLine)
  | some .help => pure (.success usage)
  | some (.run options command) =>
    match ← (do runCommand world (← readConfig world options) command).run with
    | .ok output => pure output
    | .error message => pure (.failure message)

end Banana.CommandLine
