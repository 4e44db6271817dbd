import ReportPress.Report

/-!
Pipe tables. A row has the cells that it was given, so rows of different lengths pass through as
they are; a table without headers has no lines.
-/

namespace ReportPress.Markdown

/-- The cells of a row between pipes. -/
def rowLine (cells : List String) : String := "| " ++ " | ".intercalate cells ++ " |"

/-- The lines of a table: headers, rule, rows and an empty line. -/
def tableLines (table : TableData) : List String :=
  let headers := table.headerCells
  if headers.isEmpty then []
  else
    rowLine headers :: rowLine (List.replicate headers.length "---") ::
      (table.rowCells.map rowLine ++ [""])

end ReportPress.Markdown
