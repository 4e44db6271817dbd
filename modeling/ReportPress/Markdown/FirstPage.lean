import ReportPress.Json.Display
import ReportPress.Markdown.Label
import ReportPress.Report.Fields

/-!
The Markdown of a first page: the title, then the subtitle, the metadata table, the authors, the
highlights and the summary, each only if there is something to show. There are no lines where a
value that is shown has no text.
-/

namespace ReportPress

namespace FirstPage

/-- The title, the first of two fields that holds anything, or a general one. -/
def displayTitle? (page : FirstPage) : Option String :=
  if (page.value .reportTitle).isTruthy then (page.value .reportTitle).displayText?
  else if (page.value .title).isTruthy then (page.value .title).displayText?
  else some "Report"

/-- The text of a metadata field. -/
def metadataText? (field : PageField) (value : Json) : Option String :=
  value.display?.map fun text => if field.isPercentage then text ++ "%" else text

/-- The label and text of a metadata field, if it has a value. -/
def metadataRow? (page : FirstPage) (field : PageField) : Option (List (String × String)) :=
  match page.value field with
  | .null => some []
  | value => (metadataText? field value).map fun text =>
    [(Markdown.label field.field.jsonName, text)]

/-- The label and text of each metadata field that has a value. -/
def metadataRows? (page : FirstPage) : Option (List (String × String)) :=
  (PageField.metadata.mapM page.metadataRow?).map List.flatten

end FirstPage

namespace Markdown

/-- What is written of a value, nothing if it has no content. -/
def contentLines? (value : Json) (write : String → List String) : Option (List String) :=
  if value.isTruthy then value.displayText?.map write else some []

/-- The subtitle. -/
def subtitleLines? (page : FirstPage) : Option (List String) :=
  contentLines? (page.value .reportSubTitle) fun text => ["## " ++ text, ""]

/-- The metadata table of rows. -/
def metadataTable (rows : List (String × String)) : List String :=
  if rows.isEmpty then []
  else
    "| Field | Value |" :: "|-------|-------|" ::
      (rows.map (fun row => "| " ++ row.1 ++ " | " ++ row.2 ++ " |") ++ [""])

/-- The metadata table. -/
def metadataLines? (page : FirstPage) : Option (List String) :=
  page.metadataRows?.map metadataTable

/-- A detail of an author, if there is one. -/
def detailLine? (detail : String) (value : Option Json) : Option (List String) :=
  contentLines? (value.getD .null) fun text => ["  - " ++ detail ++ ": " ++ text]

/-- An author with the details that are given. -/
def authorLines? (author : Author) : Option (List String) := do
  let name ← (author.name.getD .null).displayText?
  let email ← detailLine? "Email" author.email
  let phone ← detailLine? "Phone" author.phone
  return ("- **" ++ name ++ "**") :: (email ++ phone)

/-- A highlight. -/
def pointLine? (point : Json) : Option (List String) :=
  point.displayText?.map fun text => ["- " ++ text]

/-- The items of a list that may be absent or null. -/
def given {α : Type} (items : Option (Option (List α))) : List α := items.join.getD []

/-- A section of a list, empty without items. -/
def sectionLines? {α : Type} (heading : String) (items : List α)
    (lines? : α → Option (List String)) (closing : List String) : Option (List String) :=
  if items.isEmpty then some []
  else (items.mapM lines?).map fun texts => heading :: "" :: (texts.flatten ++ closing)

/-- The heading of a paragraph of the summary, if it has one. -/
def headingLines? (paragraph : SummaryParagraph) : Option (List String) :=
  contentLines? (paragraph.heading.getD .null) fun text => ["### " ++ text, ""]

/-- A paragraph of the summary under its heading. -/
def summaryLines? (paragraph : SummaryParagraph) : Option (List String) := do
  let heading ← headingLines? paragraph
  let content ← (paragraph.content.getD .null).displayText?
  return heading ++ [content, ""]

/-- The lines of a first page. -/
def firstPageLines? (page : FirstPage) : Option (List String) := do
  let title ← page.displayTitle?
  let subtitle ← subtitleLines? page
  let metadata ← metadataLines? page
  let authors ← sectionLines? "## Authors" (given page.authors) authorLines? [""]
  let highlights ← sectionLines? "## Key Highlights" (given page.bulletPoints) pointLine? [""]
  let summary ← sectionLines? "## Summary" (given page.summaryParagraphs) summaryLines? []
  return ["# " ++ title, ""] ++ subtitle ++ metadata ++ authors ++ highlights ++ summary

end Markdown

end ReportPress
