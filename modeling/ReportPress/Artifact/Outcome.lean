import ReportPress.Artifact.Paths
import ReportPress.Command.Markup
import ReportPress.Markdown.Statistics
import ReportPress.Record.Message
import ReportPress.Report.Dump
import ReportPress.Workspace.Files

/-!
What comes of work in a workspace: the workspace as it is left, whether or not the work succeeds,
the notices given on the way, and a result or the failure that ended it.
-/

namespace ReportPress

/-- Why a schema document is no use. -/
inductive SchemaProblem
  | reading (e : Workspace.ReadError)
  | malformed (e : Json.SyntaxError)

/-- Why work ends without a result. -/
inductive Failure
  | file (e : FileError)
  | decoding (e : Text.Utf8.DecodeError)
  | encoding (e : Text.Utf8.EncodeError)
  | rejected (r : Rejection)
  | schema (file : String) (problem : SchemaProblem)
  | dump (e : DumpError)
  | figure (e : Statistics.FigureError)
  | cost (e : Pricing.CostError)
  | markup (e : Markup.MarkupError)

/-- Something that is told on the way. -/
inductive Notice
  | schemaLoaded (name : String) (fields : Nat)
  | jsonSaved (path : Path)
  | markdownSaved (path : Path) (pages : Int) (blocks : Nat)
  | regenerated (path : Path)
  | baseMissing (path : Path)
  | skipped (path : Path) (reason : Failure)
  | statisticsLost (path : Path) (reason : Failure)

/-- The workspace after some work, what was told, and the result. -/
structure Outcome (α : Type) where
  workspace : Workspace
  notices : List Notice
  result : Except Failure α

/-- Work that goes on with the result of earlier work, unless that failed. -/
def Outcome.bind {α β : Type} (first : Outcome α) (next : Workspace → α → Outcome β) : Outcome β :=
  match first.result with
  | .error e => ⟨first.workspace, first.notices, .error e⟩
  | .ok a =>
    let second := next first.workspace a
    ⟨second.workspace, first.notices ++ second.notices, second.result⟩

/-- The outcome with its result changed. -/
def Outcome.map {α β : Type} (f : α → β) (outcome : Outcome α) : Outcome β :=
  ⟨outcome.workspace, outcome.notices, outcome.result.map f⟩

def SchemaProblem.message : SchemaProblem → String
  | .reading e => e.message
  | .malformed e => e.message

def Failure.message : Failure → String
  | .file e => e.message
  | .decoding e => e.message
  | .encoding e => e.message
  | .rejected r => r.message
  | .schema name problem => "Failed to load schema from " ++ name ++ ": " ++ problem.message
  | .dump e => e.message
  | .figure e => e.message
  | .cost e => e.message
  | .markup e => e.message

/-- The failure to read a file. -/
def Failure.ofRead : Workspace.ReadError → Failure
  | .file e => .file e
  | .encoding e => .decoding e

/-- The failure to write a file. -/
def Failure.ofWrite : Workspace.WriteError → Failure
  | .file e => .file e
  | .encoding e => .encoding e

namespace Notice

/-- Whether a notice tells that something went wrong. -/
def isWarning : Notice → Bool
  | .baseMissing _ | .skipped _ _ | .statisticsLost _ _ => true
  | _ => false

/-- The text of a notice, in which a failure is told as `describe` says. -/
def message (describe : Failure → String) : Notice → String
  | .schemaLoaded name fields => "Schema loaded: " ++ name ++ " (" ++ fields.repr ++ " fields)"
  | .jsonSaved path => "JSON saved to: " ++ path.text
  | .markdownSaved path pages blocks =>
    "Markdown saved to: " ++ path.text ++ " (" ++ String.ofList (Text.intChars pages) ++
      " pages, " ++ blocks.repr ++ " content blocks)"
  | .regenerated path => "Regenerated: " ++ path.text
  | .baseMissing path => "Output directory not found: " ++ path.text
  | .skipped path reason => "Skipping " ++ path.text ++ ": " ++ describe reason
  | .statisticsLost path reason =>
    "Statistics not recovered from " ++ path.text ++ ": " ++ describe reason

end Notice

end ReportPress
