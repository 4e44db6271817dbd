import ReportPress.Markdown.Blocks
import ReportPress.Markdown.FirstPage
import ReportPress.Markdown.Statistics

/-!
The Markdown document of a report: the statistics of the run, the first page and the inner pages.
-/

namespace ReportPress.Markdown

/-- The lines of a report, without the statistics. -/
def bodyLines? (report : Report) : Option (List String) := do
  let firstPage ← firstPageLines? report.page
  let innerPages ← blocksLines? report.blocks
  return ["Page 1", pageRule, ""] ++ firstPage ++ innerPages

/-- The document of the lines of a report, if there are any, behind the statistics. -/
def documentOf (body? : Option (List String)) (schemaName : LooseText) (usage : TokenUsage)
    (cost : Cost) : Except Statistics.FigureError LooseText := do
  let statistics ← Statistics.lines schemaName usage cost
  match body? with
  | none => .error (.tooManyDigits none)
  | some body => return .joinLines (statistics ++ body.map .ofString)

/-- The document of a report. -/
def document (report : Report) (schemaName : LooseText) (usage : TokenUsage) (cost : Cost) :
    Except Statistics.FigureError LooseText :=
  documentOf (bodyLines? report) schemaName usage cost

end ReportPress.Markdown
