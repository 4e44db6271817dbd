import ReportPress.Text.UpperCase
import ReportPress.Workspace.Path

/-!
Where the artifacts of a document stand: in a directory of its own below the output base, the JSON
under the document's name and the Markdown under the name in upper case.
-/

namespace ReportPress

/-- The places of a document's artifacts. -/
structure ArtifactPaths where
  directory : Path
  json : Path
  markdown : Path

/-- The places of the artifacts of a document below an output base. -/
def ArtifactPaths.of (base : Path) (name : String) : ArtifactPaths :=
  let directory := base.append name
  ⟨directory, directory.append (name ++ ".json"), directory.append (Text.upper name ++ ".md")⟩

end ReportPress
