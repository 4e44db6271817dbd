import ReportPress.Artifact.Regenerate
import ReportPress.Command.Arguments
import ReportPress.Schema.Load
import ReportPress.Settings

/-!
The commands: showing the payload or the instructions of a schema, rendering a JSON artifact, and
regenerating all Markdown artifacts. Running one changes a workspace and ends with an exit code and
what it printed, with a failure that it does not handle, or with the refusal of its arguments.
-/

namespace ReportPress

/-- A command with its arguments. -/
inductive Command
  | schema (file : String) (directory : Option String) (inner : Bool)
  | prompt (file : String) (directory : Option String)
  | render (artifact : Path) (schemaName : String) (output : Option Path) (input tokens : Nat)
  | regenerate (file directory output : Option String)

/-- How a command ends. -/
inductive Ending
  | exited (code : Nat) (output : String)
  | failed (failure : Failure)
  | misused

/-- The workspace after a command, what was told, and the end. -/
structure CommandOutcome where
  workspace : Workspace
  notices : List Notice
  ending : Ending

namespace Command

/-- The option before the name of a command. -/
def commonOptions : List CommandOption := [⟨"log-level", none, true⟩]

def directoryOption : CommandOption := ⟨"schemas-dir", none, true⟩

/-- The command of a name with the words after it. -/
def ofNameAndWords? (name : String) (args : List String) : Option Command :=
  if name == "schema" then do
    let words ← wordsOf [directoryOption, ⟨"inner", none, false⟩] false args
    match words.others with
    | [file] => return .schema file (words.value? "schemas-dir") (words.has "inner")
    | _ => none
  else if name == "prompt" then do
    let words ← wordsOf [directoryOption] false args
    match words.others with
    | [file] => return .prompt file (words.value? "schemas-dir")
    | _ => none
  else if name == "render" then do
    let words ← wordsOf
      [⟨"schema-name", none, true⟩, ⟨"output", some 'o', true⟩, ⟨"input-tokens", none, true⟩,
        ⟨"output-tokens", none, true⟩] false args
    let schemaName ← words.value? "schema-name"
    let input ← tokenCount? words "input-tokens"
    let output ← tokenCount? words "output-tokens"
    let target ← pathOption? words "output"
    match words.others with
    | [artifact] => return .render (← path? artifact) schemaName target input output
    | _ => none
  else if name == "regenerate" then do
    let words ← wordsOf [directoryOption, ⟨"output-dir", none, true⟩] false args
    match words.others with
    | [] => return .regenerate none (words.value? "schemas-dir") (words.value? "output-dir")
    | [file] =>
      return .regenerate (some file) (words.value? "schemas-dir") (words.value? "output-dir")
    | _ => none
  else none

/-- The command that the words of a command line give. -/
def ofWords? (args : List String) : Option Command := do
  let words ← wordsOf commonOptions true args
  match words.others with
  | name :: args => ofNameAndWords? name args
  | [] => none

/-- The paths at which a command looks. -/
def paths (settings : Settings) : Command → List Path
  | .schema file directory _ | .prompt file directory =>
    [(Path.ofString (Settings.choose directory settings.schemasDirectory)).append file]
  | .render artifact _ output _ _ => artifact :: output.toList
  | .regenerate file directory output =>
    [(Path.ofString (Settings.choose directory settings.schemasDirectory)).append
        (Settings.choose file (settings.schemaFile.getD "")),
      .ofString (Settings.choose output settings.outputBaseDirectory)]

/-- Prints a line of markup and exits. -/
def exitWithLine (w : Workspace) (notices : List Notice) (code : Nat) (markup : String) :
    CommandOutcome :=
  match Markup.plain markup with
  | .ok line => ⟨w, notices, .exited code (line ++ "\n")⟩
  | .error e => ⟨w, notices, .failed (.markup e)⟩

/-- Loads a schema and goes on with it; one that is no use ends the command with code 1. -/
def withSchema (w : Workspace) (settings : Settings) (file : String) (directory : Option String)
    (next : Schema.Extraction → List Notice → CommandOutcome) : CommandOutcome :=
  let loaded := Schema.load w (Settings.choose directory settings.schemasDirectory) file
  match loaded.result with
  | .ok extraction => next extraction loaded.notices
  | .error failure =>
    exitWithLine w loaded.notices 1 ("[bold red]" ++ Markup.escape failure.message ++ "[/bold red]")

/-- Prints a document, or writes it where it is to go. -/
def deliver (w : Workspace) (document : LooseText) : Option Path → CommandOutcome
  | none =>
    match document.plain with
    | .ok text => ⟨w, [], .exited 0 (Screen.document text ++ "\n")⟩
    | .error e => ⟨w, [], .failed (.encoding e)⟩
  | some output =>
    match w.makeDirectories output.parent with
    | (w, .error e) => ⟨w, [], .failed (.file e)⟩
    | (w, .ok ()) =>
      match w.writeText output document with
      | (w, .error e) => ⟨w, [], .failed (.ofWrite e)⟩
      | (w, .ok ()) => exitWithLine w [] 0 ("[green]Markdown saved to:[/green] " ++ output.text)

/-- The document of a report at the prices that are set. -/
def priced (settings : Settings) (report : Report) (schemaName : String) (usage : TokenUsage) :
    Except Failure LooseText := do
  let pricing ← settings.pricing.mapError .rejected
  let cost ← (pricing.cost usage).mapError .cost
  (Markdown.document report schemaName usage (.exact cost)).mapError .figure

/-- Renders the JSON artifact at a path where a file stands. -/
def renderArtifact (w : Workspace) (settings : Settings) (artifact : Path) (schemaName : String)
    (output : Option Path) (usage : TokenUsage) : CommandOutcome :=
  match Artifact.load w artifact with
  | .error (.rejected rejection) =>
    exitWithLine w [] 1
      ("[bold red]Invalid report " ++ artifact.text ++ ":[/bold red] " ++
        Markup.escape rejection.message)
  | .error failure => ⟨w, [], .failed failure⟩
  | .ok report =>
    match priced settings report schemaName usage with
    | .error failure => ⟨w, [], .failed failure⟩
    | .ok document => deliver w document output

/-- Runs a command. -/
def run (w : Workspace) (settings : Settings) : Command → CommandOutcome
  | .schema file directory inner =>
    withSchema w settings file directory fun extraction notices =>
      ⟨w, notices, .exited 0 ((extraction.format inner).indented ++ "\n")⟩
  | .prompt file directory =>
    withSchema w settings file directory fun extraction notices =>
      ⟨w, notices, .exited 0 (Screen.document extraction.prompt ++ "\n")⟩
  | .render artifact schemaName output input tokens =>
    match w.entry artifact with
    | .ok (.file _) =>
      renderArtifact w settings artifact schemaName output (.ofInputOutput input tokens)
    | _ => ⟨w, [], .misused⟩
  | .regenerate file directory output =>
    let file := Settings.choose file (settings.schemaFile.getD "")
    if file.isEmpty then
      exitWithLine w [] 1
        "[bold red]Schema file is not configured. Set SCHEMA_FILE or pass it.[/bold red]"
    else
      withSchema w settings file directory fun extraction notices =>
        let base := Path.ofString (Settings.choose output settings.outputBaseDirectory)
        let outcome := Artifact.regenerate w extraction.name base
        match outcome.result with
        | .error failure => ⟨outcome.workspace, notices ++ outcome.notices, .failed failure⟩
        | .ok paths =>
          ⟨outcome.workspace, notices ++ outcome.notices,
            .exited 0 ("Regenerating markdown files from existing JSON...\nRegenerated " ++
              paths.length.repr ++ " markdown file(s)\n")⟩

end Command

end ReportPress
