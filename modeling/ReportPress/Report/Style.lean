/-!
The styles of content blocks on inner pages. Fourteen are known by a tag; a tag that is none of
these is kept as it is. Main statement: `ofTag?_tag`, tags tell the known styles apart.
-/

namespace ReportPress

/-- The known styles. -/
inductive ParagraphStyle
  | pageHeader
  | chapterHeading
  | subheading1
  | subheading2
  | bodyText
  | callout
  | exhibitTitle
  | exhibitSource
  | bulletLevel1
  | bulletLevel2
  | bulletLevel3
  | pageFooter
  | footnote
  | table
  deriving DecidableEq

namespace ParagraphStyle

/-- The known styles, in the order in which they are listed for a reader. -/
def all : List ParagraphStyle :=
  [.pageHeader, .chapterHeading, .subheading1, .subheading2, .bodyText, .callout, .exhibitTitle,
    .exhibitSource, .bulletLevel1, .bulletLevel2, .bulletLevel3, .pageFooter, .footnote, .table]

/-- The tag of a style. -/
def tag : ParagraphStyle → String
  | .pageHeader => "page header"
  | .chapterHeading => "chapter heading"
  | .subheading1 => "subheading 1"
  | .subheading2 => "subheading 2"
  | .bodyText => "body text"
  | .callout => "callout"
  | .exhibitTitle => "exhibit title"
  | .exhibitSource => "exhibit source"
  | .bulletLevel1 => "bullet level 1"
  | .bulletLevel2 => "bullet level 2"
  | .bulletLevel3 => "bullet level 3"
  | .pageFooter => "page footer"
  | .footnote => "footnote"
  | .table => "table"

/-- The style with the tag. -/
def ofTag? (tag : String) : Option ParagraphStyle := all.find? (·.tag == tag)

theorem mem_all (style : ParagraphStyle) : style ∈ all := by cases style <;> decide

theorem tag_of_ofTag? {tag : String} {style : ParagraphStyle} (h : ofTag? tag = some style) :
    style.tag = tag := by
  simpa using List.find?_some h

end ParagraphStyle

/-- The style of a content block: a known one, or a tag outside the known set. -/
inductive BlockStyle
  | known (style : ParagraphStyle)
  | other (tag : String)
  deriving DecidableEq

namespace BlockStyle

/-- The style that a tag names. -/
def ofTag (tag : String) : BlockStyle :=
  match ParagraphStyle.ofTag? tag with
  | some style => .known style
  | none => .other tag

/-- The tag of a style. -/
def tag : BlockStyle → String
  | .known style => style.tag
  | .other tag => tag

@[simp] theorem tag_ofTag (text : String) : (ofTag text).tag = text := by
  simp only [ofTag]
  split
  · rename_i style h
    exact ParagraphStyle.tag_of_ofTag? h
  · rfl

end BlockStyle

end ReportPress
