import ReportPress.Report.Style
import ReportPress.Schema.Strict

/-!
The fixed strict schema of the inner pages: a list of paragraphs, each with a known style and with
a text and a table that may be null.
-/

namespace ReportPress.Schema

/-- A list of items with the given schema. -/
def arrayOf (items : Json) : Json := .obj [("type", .str "array"), ("items", items)]

/-- A text. -/
def textNode : Json := .obj [("type", .str "string")]

/-- An object, or null where `nullable`, that has exactly the given properties. -/
def objectNode (nullable : Bool) (properties : Members) : Json :=
  .obj [("type", if nullable then .arr [.str "object", .str "null"] else .str "object"),
    ("properties", .obj properties), ("required", .arr (properties.keys.map .str)),
    ("additionalProperties", .bool false)]

/-- A paragraph of an inner page. -/
def paragraphNode : Json :=
  objectNode false
    [("style", .obj [("type", .str "string"),
        ("enum", .arr (ParagraphStyle.all.map fun style => .str style.tag))]),
      ("text", .obj [("type", .arr [.str "string", .str "null"])]),
      ("table", objectNode true
        [("headers", arrayOf textNode), ("rows", arrayOf (arrayOf textNode))])]

/-- The strict schema of inner pages. -/
def innerPage : Json := objectNode false [("paragraphs", arrayOf paragraphNode)]

end ReportPress.Schema
