import ReportPress.Artifact.Outcome
import ReportPress.Schema.Extraction

/-!
Loading a schema document from a directory of schemas. The schema is named after the file.
-/

namespace ReportPress.Schema

/-- The document in a schema file. -/
def readDocument (w : Workspace) (path : Path) : Except SchemaProblem Json :=
  match w.readText path with
  | .error e => .error (.reading e)
  | .ok text => (Json.read .documents text).mapError .malformed

/-- The schema in a file of a directory, and what is told of it. -/
def load (w : Workspace) (directory file : String) : Outcome Extraction :=
  let path := (Path.ofString directory).append file
  match readDocument w path with
  | .error problem => ⟨w, [], .error (.schema file problem)⟩
  | .ok document =>
    let schema := Extraction.ofDocument path.stem document
    ⟨w, [.schemaLoaded schema.name schema.fieldNames.length], .ok schema⟩

end ReportPress.Schema
