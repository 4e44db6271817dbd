import ReportPress.Json.Display
import ReportPress.Markdown.Table
import ReportPress.Report.Reading

/-!
The Markdown of the inner pages: each content block by its style, with a marker in front of every
block that carries a page number other than the last one seen. A number that has no text ends the
work.
-/

namespace ReportPress.Markdown

/-- The rule below the name of a page. -/
def pageRule : String := String.ofList (List.replicate 41 '-')

/-- The divider in front of a new source page. -/
def pageMarker? (page : Int) : Option (List String) :=
  (Text.intText? page).map fun number => ["", "Page " ++ number, pageRule, ""]

/-- How the text of a block is written: what stands around it, and whether an empty line follows. -/
structure Wrapping where
  before : String
  after : String
  spaced : Bool

/-- The lines of a text in a wrapping. -/
def Wrapping.lines (wrapping : Wrapping) (text : String) : List String :=
  (wrapping.before ++ text ++ wrapping.after) :: if wrapping.spaced then [""] else []

/-- The wrapping of a style that shows its text; headers, footers and tables show none. -/
def wrapping? : ParagraphStyle → Option Wrapping
  | .chapterHeading => some ⟨"## ", "", true⟩
  | .subheading1 => some ⟨"### ", "", true⟩
  | .subheading2 => some ⟨"#### ", "", true⟩
  | .bodyText => some ⟨"", "", true⟩
  | .callout => some ⟨"> **", "**", true⟩
  | .exhibitTitle => some ⟨"**", "**", true⟩
  | .exhibitSource => some ⟨"*", "*", true⟩
  | .bulletLevel1 => some ⟨"- ", "", false⟩
  | .bulletLevel2 => some ⟨"  - ", "", false⟩
  | .bulletLevel3 => some ⟨"    - ", "", false⟩
  | .footnote => some ⟨"<sup>", "</sup>", true⟩
  | .pageHeader | .pageFooter | .table => none

/-- The lines of a block with a known style. -/
def styledLines (block : ContentBlock) (style : ParagraphStyle) : List String :=
  match wrapping? style with
  | some wrapping => wrapping.lines (block.text?.getD "")
  | none =>
    if style = .table then
      match block.table? with
      | some table => tableLines table
      | none => []
    else []

/-- The lines of a block; one with an unknown style is a plain paragraph, if it has a text. -/
def blockLines (block : ContentBlock) : List String :=
  match block.style with
  | .known style => styledLines block style
  | .other _ =>
    match block.text? with
    | some text => if text.isEmpty then [] else [text, ""]
    | none => []

/-- The marker in front of a block on `page`, where the last page seen is `current`. -/
def markerLines? (current page : Option Int) : Option (List String) :=
  match page with
  | none => some []
  | some number => if current = some number then some [] else pageMarker? number

/-- The lines of blocks, where the last page seen is `current`. -/
def blocksLinesFrom? (current : Option Int) : List ContentBlock → Option (List String)
  | [] => some []
  | block :: rest => do
    let marker ← markerLines? current block.page?
    let lines ← blocksLinesFrom? (block.page?.or current) rest
    return marker ++ blockLines block ++ lines

/-- The lines of blocks in order. -/
def blocksLines? (blocks : List ContentBlock) : Option (List String) := blocksLinesFrom? none blocks

/-- Why blocks that are still to be read have no lines. -/
inductive BlocksError
  | rejected (r : Rejection)
  | tooManyDigits

/-- The lines of blocks that are still to be read, each read when it is its turn; the first that
is no content block ends the work. -/
def rawBlocksLinesFrom (source : Source) (current : Option Int) :
    List Json → Except BlocksError (List String)
  | [] => .ok []
  | raw :: rest =>
    match ContentBlock.check raw with
    | .error faults => .error (.rejected ⟨"ContentBlock", source, faults⟩)
    | .ok block =>
      match markerLines? current block.page? with
      | none => .error .tooManyDigits
      | some marker =>
        (rawBlocksLinesFrom source (block.page?.or current) rest).map fun lines =>
          marker ++ blockLines block ++ lines

/-- The lines of blocks that are given as data. -/
def rawBlocksLines (blocks : List Json) : Except BlocksError (List String) :=
  rawBlocksLinesFrom .data none blocks

end ReportPress.Markdown
