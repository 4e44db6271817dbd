import ReportPress.Json
import ReportPress.Report.Style

/-!
Reports. A report has a first page of free-form fields and lists, and content blocks in reading
order. Every record tells the fields that were given apart from those that were not, and keeps what
was given beyond its fields.
-/

namespace ReportPress

/-- The free-form fields of a first page. -/
inductive PageField
  | reportTitle
  | title
  | reportSubTitle
  | reportType
  | reportDate
  | companyName
  | sectorName
  | bloombergCode
  | rating
  | previousRating
  | targetPrice
  | marketPrice
  | upsideDownside
  deriving DecidableEq

/-- An author of a report. -/
structure Author where
  name : Option Json
  email : Option Json
  phone : Option Json
  extras : Members

/-- A paragraph of a report's summary. -/
structure SummaryParagraph where
  heading : Option Json
  content : Option Json
  extras : Members

/-- The first page of a report. A list that is given may be given as null. -/
structure FirstPage where
  value? : PageField → Option Json
  authors : Option (Option (List Author))
  bulletPoints : Option (Option (List Json))
  summaryParagraphs : Option (Option (List SummaryParagraph))
  extras : Members

/-- The cells of a table. -/
structure TableData where
  headers : Option (List String)
  rows : Option (List (List String))
  extras : Members

/-- A block of an inner page. A text, table or page number that is given may be given as null. -/
structure ContentBlock where
  style : BlockStyle
  text : Option (Option String)
  table : Option (Option TableData)
  pageNumber : Option (Option Int)
  extras : Members

/-- A report. -/
structure Report where
  firstPage : Option FirstPage
  innerPagesParagraphs : Option (List ContentBlock)
  extras : Members

namespace PageField

/-- The fields in the order of their declaration. -/
def all : List PageField :=
  [.reportTitle, .title, .reportSubTitle, .reportType, .reportDate, .companyName, .sectorName,
    .bloombergCode, .rating, .previousRating, .targetPrice, .marketPrice, .upsideDownside]

/-- The fields that are shown in a table, in the order in which they are shown. -/
def metadata : List PageField :=
  [.reportType, .reportDate, .companyName, .sectorName, .bloombergCode, .rating, .previousRating,
    .targetPrice, .marketPrice, .upsideDownside]

theorem mem_all (field : PageField) : field ∈ all := by cases field <;> decide

/-- The fields that are shown with a percent sign. -/
def isPercentage (field : PageField) : Bool := field == .upsideDownside

end PageField

/-- A first page without any field. -/
def FirstPage.empty : FirstPage := ⟨fun _ => none, none, none, none, []⟩

/-- The value of a field, null where it is not given. -/
def FirstPage.value (page : FirstPage) (field : PageField) : Json := (page.value? field).getD .null

namespace TableData

/-- The header cells. -/
def headerCells (table : TableData) : List String := table.headers.getD []

/-- The cells of the rows. -/
def rowCells (table : TableData) : List (List String) := table.rows.getD []

end TableData

namespace ContentBlock

/-- The text, if there is one. -/
def text? (block : ContentBlock) : Option String := block.text.join

/-- The table, if there is one. -/
def table? (block : ContentBlock) : Option TableData := block.table.join

/-- The source page, if it is known. -/
def page? (block : ContentBlock) : Option Int := block.pageNumber.join

/-- The style, if it is a known one. -/
def knownStyle? (block : ContentBlock) : Option ParagraphStyle :=
  match block.style with
  | .known style => some style
  | .other _ => none

end ContentBlock

namespace Report

/-- The first page, empty where it is not given. -/
def page (report : Report) : FirstPage := report.firstPage.getD .empty

/-- The content blocks in reading order. -/
def blocks (report : Report) : List ContentBlock := report.innerPagesParagraphs.getD []

/-- The greatest page number of any block, or 1 where no block has one. -/
def pageCount (report : Report) : Int :=
  match report.blocks.filterMap ContentBlock.page? with
  | [] => 1
  | page :: rest => rest.foldl max page

end Report

end ReportPress
