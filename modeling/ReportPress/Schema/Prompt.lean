import ReportPress.Schema.Strict
import ReportPress.Text.Line

/-!
The instructions for reading a first page. They name the kind of report, which the schema's name
tells, and list the fields that the schema declares, one a line.
-/

namespace ReportPress.Schema

/-- Whether the text stands somewhere in the other. -/
def occursIn (part : List Char) : List Char → Bool
  | [] => part.isEmpty
  | c :: rest => part.isPrefixOf (c :: rest) || occursIn part rest

/-- The kind of report that a schema's name tells. -/
def reportType (schemaName : String) : String :=
  if occursIn "sector".toList schemaName.toList then "sector" else "stock research"

/-- The lines of the instructions below the fields. -/
def instructions : List String :=
  ["Instructions:", "- Extract all text exactly as shown", "- For dates, format as YYYY-MM-DD",
    "- For numbers, extract as numeric values",
    "- For arrays (like authors, bulletPoints), extract all items",
    "- If a field is not visible, use an appropriate default value"]

/-- The fields, one a line. -/
def fieldList (names : List String) : String := Text.joinLines (names.map ("- " ++ ·))

/-- The instructions for a first page with the properties that the schema declares. -/
def firstPagePrompt (schema : Json) (schemaName : String) : String :=
  Text.joinLines (
    ["You are analyzing the first page of a " ++ reportType schemaName ++
        " report. Extract all information from this image.", "",
      "Extract the following fields:", fieldList (declared schema).keys, ""] ++ instructions)

end ReportPress.Schema
