import ReportPress.Text.Blank
import ReportPress.Text.UpperCase

/-!
Labels of fields: the words of a camel-case name, apart and with the first letter in upper case.
-/

namespace ReportPress.Markdown

/-- A blank in front of each ASCII capital. -/
def spaceCapitals (cs : List Char) : List Char :=
  cs.flatMap fun c => if 'A' ≤ c ∧ c ≤ 'Z' then [' ', c] else [c]

/-- The label of a field with the given name. -/
def label (name : String) : String :=
  let spaced := spaceCapitals name.toList
  String.ofList (Text.trim Text.isBlank ((spaced.take 1).flatMap Text.upperChar ++ spaced.drop 1))

end ReportPress.Markdown
