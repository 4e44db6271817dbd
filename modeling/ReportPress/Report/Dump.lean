import ReportPress.Json.Printer
import ReportPress.Report.Fields

/-!
Writing the records of a report as JSON values. A record is written as the fields that were given,
in the order of their declaration and under their JSON names, and then what was kept beside them.
In what is written, a number that is not finite is null. A record is not written if something that
stands where any value may stand nests too deep.
-/

namespace ReportPress

/-- A list that may be null. -/
def Json.ofNullable {α : Type} (dump : α → Json) : Option α → Json
  | none => .null
  | some a => dump a

/-- The items of a list. -/
def Json.ofList {α : Type} (dump : α → Json) (items : List α) : Json := .arr (items.map dump)

/-- The fields of an author with their values. -/
def Author.slots (author : Author) : List (Field × Option Json) :=
  [(nameField, author.name), (emailField, author.email), (phoneField, author.phone)]

/-- The author as an object. -/
def Author.toJson (author : Author) : Json := .obj (Record.write author.slots author.extras)

/-- The fields of a summary paragraph with their values. -/
def SummaryParagraph.slots (paragraph : SummaryParagraph) : List (Field × Option Json) :=
  [(headingField, paragraph.heading), (contentField, paragraph.content)]

/-- The summary paragraph as an object. -/
def SummaryParagraph.toJson (paragraph : SummaryParagraph) : Json :=
  .obj (Record.write paragraph.slots paragraph.extras)

/-- The fields of a first page with their values. -/
def FirstPage.slots (page : FirstPage) : List (Field × Option Json) :=
  PageField.all.map (fun field => (field.field, page.value? field)) ++
    [(authorsField, page.authors.map (.ofNullable (.ofList Author.toJson))),
      (bulletPointsField, page.bulletPoints.map (.ofNullable (.ofList id))),
      (summaryParagraphsField,
        page.summaryParagraphs.map (.ofNullable (.ofList SummaryParagraph.toJson)))]

/-- The first page as an object. -/
def FirstPage.toJson (page : FirstPage) : Json := .obj (Record.write page.slots page.extras)

/-- The fields of a table with their values. -/
def TableData.slots (table : TableData) : List (Field × Option Json) :=
  [(headersField, table.headers.map (.ofList .str)),
    (rowsField, table.rows.map (.ofList (.ofList .str)))]

/-- The table as an object. -/
def TableData.toJson (table : TableData) : Json := .obj (Record.write table.slots table.extras)

/-- The fields of a content block with their values. -/
def ContentBlock.slots (block : ContentBlock) : List (Field × Option Json) :=
  [(styleField, some (.str block.style.tag)), (textField, block.text.map (.ofNullable .str)),
    (tableField, block.table.map (.ofNullable TableData.toJson)),
    (pageNumberField, block.pageNumber.map (.ofNullable .int))]

/-- The content block as an object. -/
def ContentBlock.toJson (block : ContentBlock) : Json := .obj (Record.write block.slots block.extras)

/-- The fields of a report with their values. -/
def Report.slots (report : Report) : List (Field × Option Json) :=
  [(firstPageField, report.firstPage.map FirstPage.toJson),
    (innerPagesParagraphsField, report.innerPagesParagraphs.map (.ofList ContentBlock.toJson))]

/-- The report as an object. -/
def Report.toJson (report : Report) : Json := .obj (Record.write report.slots report.extras)

/-- The values in the record that are bound to no type. -/
def Author.freeValues (author : Author) : List Json :=
  author.slots.filterMap (·.2) ++ author.extras.map (·.2)

/-- The values in the record that are bound to no type. -/
def SummaryParagraph.freeValues (paragraph : SummaryParagraph) : List Json :=
  paragraph.slots.filterMap (·.2) ++ paragraph.extras.map (·.2)

/-- The values in the record, and in those in it, that are bound to no type. -/
def FirstPage.freeValues (page : FirstPage) : List Json :=
  PageField.all.filterMap page.value? ++ (page.authors.join.getD []).flatMap Author.freeValues ++
    page.bulletPoints.join.getD [] ++
    (page.summaryParagraphs.join.getD []).flatMap SummaryParagraph.freeValues ++
    page.extras.map (·.2)

/-- The values in the record that are bound to no type. -/
def TableData.freeValues (table : TableData) : List Json := table.extras.map (·.2)

/-- The values in the record, and in the table in it, that are bound to no type. -/
def ContentBlock.freeValues (block : ContentBlock) : List Json :=
  block.table?.toList.flatMap TableData.freeValues ++ block.extras.map (·.2)

/-- The values in the record, and in those in it, that are bound to no type. -/
def Report.freeValues (report : Report) : List Json :=
  report.firstPage.toList.flatMap FirstPage.freeValues ++
    report.blocks.flatMap ContentBlock.freeValues ++ report.extras.map (·.2)

/-- The author as it is written. -/
def Author.dump? (author : Author) : Option Json :=
  Record.dump? author.freeValues author.toJson.finite

/-- The summary paragraph as it is written. -/
def SummaryParagraph.dump? (paragraph : SummaryParagraph) : Option Json :=
  Record.dump? paragraph.freeValues paragraph.toJson.finite

/-- The first page as it is written. -/
def FirstPage.dump? (page : FirstPage) : Option Json :=
  Record.dump? page.freeValues page.toJson.finite

/-- The table as it is written. -/
def TableData.dump? (table : TableData) : Option Json :=
  Record.dump? table.freeValues table.toJson.finite

/-- The content block as it is written. -/
def ContentBlock.dump? (block : ContentBlock) : Option Json :=
  Record.dump? block.freeValues block.toJson.finite

/-- The report as it is written. -/
def Report.dump? (report : Report) : Option Json :=
  Record.dump? report.freeValues report.toJson.finite

/-- Why a report has no JSON artifact. -/
inductive DumpError
  | tooDeep
  | tooManyDigits
  deriving DecidableEq

def DumpError.message : DumpError → String
  | .tooDeep => "Circular reference detected (depth exceeded)"
  | .tooManyDigits => Text.tooManyDigitsMessage none

/-- The text of the JSON artifact. -/
def Report.artifactText (report : Report) : Except DumpError String :=
  match report.dump? with
  | none => .error .tooDeep
  | some value =>
    match value.text? with
    | none => .error .tooManyDigits
    | some text => .ok text

end ReportPress
