import ReportPress.Report.Fields

/-!
Reading the records of a report from JSON values. A free-form field takes any value; the other
fields take what their type allows, and all that is wrong with a report is told at once.
-/

namespace ReportPress

open Record

/-- An author, given as an object. -/
def Author.check : Json → Check Author :=
  object "Author" fun members =>
    .ok ⟨nameField.value? members, emailField.value? members, phoneField.value? members,
      others fields members⟩

/-- A summary paragraph, given as an object. -/
def SummaryParagraph.check : Json → Check SummaryParagraph :=
  object "SummaryParagraph" fun members =>
    .ok ⟨headingField.value? members, contentField.value? members, others fields members⟩

/-- A first page, given as an object. -/
def FirstPage.check : Json → Check FirstPage :=
  object "FirstPage" fun members =>
    Check.map3
      (fun authors bulletPoints summaryParagraphs =>
        ⟨fun field => field.field.value? members, authors, bulletPoints, summaryParagraphs,
          others fields members⟩)
      (authorsField.optional (nullable (list Author.check)) members)
      (bulletPointsField.optional (nullable (list any)) members)
      (summaryParagraphsField.optional (nullable (list SummaryParagraph.check)) members)

/-- A table, given as an object. -/
def TableData.check : Json → Check TableData :=
  object "TableData" fun members =>
    Check.map2 (fun headers rows => ⟨headers, rows, others fields members⟩)
      (headersField.optional (list text) members)
      (rowsField.optional (list (list text)) members)

/-- A style, given as text; anything else is neither a known tag nor another one. -/
def BlockStyle.check : Json → Check BlockStyle
  | .str tag => .ok (.ofTag tag)
  | value =>
    .error [⟨[.key "str-enum[ParagraphStyle]"], .unknownStyle, value⟩,
      ⟨[.key "str"], .notText, value⟩]

/-- A content block, given as an object. -/
def ContentBlock.check : Json → Check ContentBlock :=
  object "ContentBlock" fun members =>
    Check.map4
      (fun style text table pageNumber => ⟨style, text, table, pageNumber, others fields members⟩)
      (styleField.required BlockStyle.check members)
      (textField.optional (nullable Record.text) members)
      (tableField.optional (nullable TableData.check) members)
      (pageNumberField.optional (nullable whole) members)

/-- A report, given as an object. -/
def Report.check : Json → Check Report :=
  object "Report" fun members =>
    Check.map2
      (fun firstPage innerPagesParagraphs =>
        ⟨firstPage, innerPagesParagraphs, others fields members⟩)
      (firstPageField.optional FirstPage.check members)
      (innerPagesParagraphsField.optional (list ContentBlock.check) members)

/-- The report that JSON text writes down. -/
def Report.ofText (text : String) : Except Rejection Report :=
  Record.ofText "Report" Report.check text

end ReportPress
