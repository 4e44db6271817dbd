import ReportPress.Schema.InnerPage
import ReportPress.Schema.Prompt

/-!
The schema of one extraction run, built from an authored document: the strict schemas of the first
and the inner pages, the instructions for the first page, and the payloads that ask for answers in
these schemas.
-/

namespace ReportPress.Schema

/-- The key of a document that holds the schema of the first page. -/
def firstPageKey : String := "firstPage"

/-- The payload that asks for an answer in a strict schema. -/
def responseFormat (name : String) (schema : Json) : Json :=
  .obj [("type", .str "json_schema"),
    ("json_schema", .obj [("name", .str name), ("strict", .bool true), ("schema", schema)])]

/-- The schema of one extraction run. -/
structure Extraction where
  name : String
  firstPage : Json
  innerPage : Json
  prompt : String

namespace Extraction

/-- The schema that a document declares for its first page; without one it has no fields. -/
def ofDocument (name : String) (document : Json) : Extraction :=
  let authored := (Members.get? (declared document) firstPageKey).getD (.obj [])
  let firstPage := strict authored
  ⟨name, firstPage, Schema.innerPage, firstPagePrompt firstPage name⟩

/-- The names of the fields of the first page. -/
def fieldNames (e : Extraction) : List String := (declared e.firstPage).keys

/-- The payload for the first page. -/
def firstPageFormat (e : Extraction) : Json := responseFormat "first_page_response" e.firstPage

/-- The payload for an inner page. -/
def innerPageFormat (e : Extraction) : Json := responseFormat "inner_page_response" e.innerPage

/-- The payload for inner pages or for the first page. -/
def format (e : Extraction) (inner : Bool) : Json :=
  if inner then e.innerPageFormat else e.firstPageFormat

end Extraction

end ReportPress.Schema
