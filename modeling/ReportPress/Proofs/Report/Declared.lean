import ReportPress.Proofs.Record.Agreement
import ReportPress.Proofs.Report.Shape

/-!
Reports without what was given beyond their fields. Two values that agree in all declared fields, at
every level, are both refused or give the same report but for these extras. Main statement:
`Report.isDeclared`.
-/

namespace ReportPress

open Record

namespace Author

/-- The author without extras. -/
def bare (author : Author) : Author := { author with extras := [] }

theorem isDeclared : IsDeclared check bare shape := by
  refine isDeclared_object fun members others hFields => .ok ?_
  have hName := Shape.Agree.eq_of_rel (hFields nameField (by decide))
  have hEmail := Shape.Agree.eq_of_rel (hFields emailField (by decide))
  have hPhone := Shape.Agree.eq_of_rel (hFields phoneField (by decide))
  simp only [bare, hName, hEmail, hPhone]

end Author

namespace SummaryParagraph

/-- The summary paragraph without extras. -/
def bare (paragraph : SummaryParagraph) : SummaryParagraph := { paragraph with extras := [] }

theorem isDeclared : IsDeclared check bare shape := by
  refine isDeclared_object fun members others hFields => .ok ?_
  have hHeading := Shape.Agree.eq_of_rel (hFields headingField (by decide))
  have hContent := Shape.Agree.eq_of_rel (hFields contentField (by decide))
  simp only [bare, hHeading, hContent]

end SummaryParagraph

namespace FirstPage

/-- The first page without extras, also in its lists. -/
def bare (page : FirstPage) : FirstPage :=
  { page with
    authors := page.authors.map (Option.map (List.map Author.bare))
    summaryParagraphs := page.summaryParagraphs.map (Option.map (List.map SummaryParagraph.bare))
    extras := [] }

theorem isDeclared : IsDeclared check bare shape := by
  refine isDeclared_object fun members others hFields => ?_
  have hValues : ∀ field : PageField, field.field.value? members = field.field.value? others := by
    intro field
    have hField := hFields field.field
      (List.mem_append_left _ (List.mem_map_of_mem (PageField.mem_all field)))
    rw [fieldShape_field] at hField
    exact Shape.Agree.eq_of_rel hField
  have hAuthors := Author.isDeclared.list.nullable.optional (hFields authorsField (by decide))
  have hPoints := (isDeclared_any (nullable (list any)) id).optional
    (hFields bulletPointsField (by decide))
  have hParagraphs := SummaryParagraph.isDeclared.list.nullable.optional
    (hFields summaryParagraphsField (by decide))
  refine hAuthors.map3 hPoints hParagraphs ?_
  intro authors authors' hAuthors points points' hPoints paragraphs paragraphs' hParagraphs
  rw [Option.map_id, id_eq, id_eq] at hPoints
  simp only [bare, hValues, hAuthors, hPoints, hParagraphs]

end FirstPage

namespace TableData

/-- The table without extras. -/
def bare (table : TableData) : TableData := { table with extras := [] }

theorem isDeclared : IsDeclared check bare shape := by
  refine isDeclared_object fun members others hFields => ?_
  have hHeaders := (isDeclared_any (list text) id).optional (hFields headersField (by decide))
  have hRows := (isDeclared_any (list (list text)) id).optional (hFields rowsField (by decide))
  refine hHeaders.map2 hRows fun headers headers' hHeaders rows rows' hRows => ?_
  rw [Option.map_id, id_eq, id_eq] at hHeaders hRows
  simp only [bare, hHeaders, hRows]

end TableData

namespace ContentBlock

/-- The content block without extras, also in its table. -/
def bare (block : ContentBlock) : ContentBlock :=
  { block with table := block.table.map (Option.map TableData.bare), extras := [] }

theorem isDeclared : IsDeclared check bare shape := by
  refine isDeclared_object fun members others hFields => ?_
  have hStyle := (isDeclared_any BlockStyle.check id).required (hFields styleField (by decide))
  have hText := (isDeclared_any (nullable Record.text) id).optional (hFields textField (by decide))
  have hTable := TableData.isDeclared.nullable.optional (hFields tableField (by decide))
  have hPage := (isDeclared_whole id).nullable.optional (hFields pageNumberField (by decide))
  refine hStyle.map4 hText hTable hPage ?_
  intro style style' hStyle text text' hText table table' hTable page page' hPage
  simp only [Option.map_id, id_eq] at hStyle hText hPage
  simp only [bare, hStyle, hText, hTable, hPage]

end ContentBlock

namespace Report

/-- The report without extras at any level. -/
def bare (report : Report) : Report :=
  { firstPage := report.firstPage.map FirstPage.bare
    innerPagesParagraphs := report.innerPagesParagraphs.map (List.map ContentBlock.bare)
    extras := [] }

/-- Two values that agree in their fields are both refused, or give the same report but for its
extras. -/
theorem isDeclared : IsDeclared check bare shape := by
  refine isDeclared_object fun members others hFields => ?_
  have hPage := FirstPage.isDeclared.optional (hFields firstPageField (by decide))
  have hBlocks := ContentBlock.isDeclared.list.optional
    (hFields innerPagesParagraphsField (by decide))
  refine hPage.map2 hBlocks fun page page' hPage blocks blocks' hBlocks => ?_
  simp only [bare, hPage, hBlocks]

end Report

end ReportPress
