import ReportPress.Artifact.Outcome
import ReportPress.Markdown.Document
import ReportPress.Report.Dump

/-!
Writing and reading the artifacts of one document. The JSON artifact is written first, then the
Markdown; a failure on the way leaves what was written before it.
-/

namespace ReportPress

/-- The texts of a document's artifacts, as far as they can be made, and what is told of them. -/
structure Artifacts where
  json : Except Failure LooseText
  markdown : Except Failure LooseText
  pages : Int
  blocks : Nat

/-- The artifacts of a report. -/
def Artifacts.of (report : Report) (schemaName : LooseText) (usage : TokenUsage) (cost : Cost) :
    Artifacts where
  json := (report.artifactText.mapError .dump).map .ofString
  markdown := (Markdown.document report schemaName usage cost).mapError .figure
  pages := report.pageCount
  blocks := report.blocks.length

namespace Artifact

/-- Writes both artifacts of a document and tells where they are. -/
def saveTexts (w : Workspace) (paths : ArtifactPaths) (artifacts : Artifacts) :
    Outcome ArtifactPaths :=
  match w.makeDirectories paths.directory with
  | (w, .error e) => ⟨w, [], .error (.file e)⟩
  | (w, .ok ()) =>
    match artifacts.json with
    | .error failure => ⟨w, [], .error failure⟩
    | .ok json =>
      match w.writeText paths.json json with
      | (w, .error e) => ⟨w, [], .error (.ofWrite e)⟩
      | (w, .ok ()) =>
        let jsonSaved := Notice.jsonSaved paths.json
        match artifacts.markdown with
        | .error failure => ⟨w, [jsonSaved], .error failure⟩
        | .ok markdown =>
          match w.writeText paths.markdown markdown with
          | (w, .error e) => ⟨w, [jsonSaved], .error (.ofWrite e)⟩
          | (w, .ok ()) =>
            ⟨w, [jsonSaved, .markdownSaved paths.markdown artifacts.pages artifacts.blocks],
              .ok paths⟩

/-- Writes both artifacts of a report and tells where they are. -/
def save (w : Workspace) (base : Path) (report : Report) (name : String) (schemaName : LooseText)
    (usage : TokenUsage) (cost : Cost) : Outcome ArtifactPaths :=
  saveTexts w (.of base name) (.of report schemaName usage cost)

/-- Whether a document has a Markdown artifact. -/
def isProcessed (w : Workspace) (base : Path) (name : String) : Except FileError Bool :=
  w.exists? (ArtifactPaths.of base name).markdown

/-- The report in a JSON artifact. -/
def load (w : Workspace) (path : Path) : Except Failure Report :=
  match w.readText path with
  | .error e => .error (.ofRead e)
  | .ok text => (Report.ofText text).mapError .rejected

end Artifact

end ReportPress
