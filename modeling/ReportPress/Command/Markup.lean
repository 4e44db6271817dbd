import ReportPress.Command.Markup.Handler
import ReportPress.Command.Markup.Style
import ReportPress.Command.Screen
import ReportPress.Text.Emoji

/-!
Console markup. A tag in square brackets styles the text up to its closing tag and is not shown
itself; a backslash in front of a bracket keeps it from starting a tag, and the name of an emoji
between colons stands for the emoji. `plain` is the text that a console without styles shows.
-/

namespace ReportPress.Markup

/-- What is wrong with markup: a closing tag without an opening one, the arguments of a handler, or
a color with an empty part. -/
inductive MarkupError
  | unopened (tag : String) (position : Nat)
  | nothingOpen (position : Nat)
  | arguments (text parameters : String) (problem : Handler.ArgumentProblem)
  | component (e : Statistics.FigureError)
  deriving DecidableEq

def MarkupError.message : MarkupError → String
  | .unopened tag position =>
    "closing tag '[" ++ tag ++ "]' at position " ++ position.repr ++ " doesn't match any open tag"
  | .nothingOpen position =>
    "closing tag '[/]' at position " ++ position.repr ++ " has nothing to close"
  | .arguments text parameters (.fault fault) =>
    "error parsing " ++ Text.quoted text ++ " in " ++ Text.quoted parameters ++ "; " ++
      fault.message
  | .arguments _ parameters (.noLiteral problem) =>
    "error parsing " ++ Text.quoted parameters ++ "; " ++ problem.message
  | .component e => e.message

/-- A character that may start a tag. -/
def startsTag (c : Char) : Bool := c.isLower || c == '#' || c == '/' || c == '@'

/-- The inside of a tag and what follows it, behind an opening bracket. A tag holds no further
opening bracket. -/
def tagBody? (cs : List Char) : Option (List Char × List Char) :=
  match cs with
  | [] => none
  | c :: rest =>
    let isInside := fun x => x != ']' && x != '['
    match rest.dropWhile isInside with
    | ']' :: left => if startsTag c then some (c :: rest.takeWhile isInside, left) else none
    | _ => none

/-- The markup that shows the text: backslashes in front of a tag are doubled, and one more is put
there. The fuel bounds the length of the text. -/
def escapeChars : Nat → List Char → List Char
  | 0, _ => []
  | _, [] => []
  | fuel + 1, c :: rest =>
    let slashes := (c :: rest).takeWhile (· == '\\')
    let after := (c :: rest).dropWhile (· == '\\')
    match after.head?, tagBody? (after.drop 1) with
    | some '[', some (tag, left) =>
      slashes ++ slashes ++ '\\' :: '[' :: tag ++ ']' :: escapeChars fuel left
    | _, _ =>
      if slashes.isEmpty then c :: escapeChars fuel rest else slashes ++ escapeChars fuel after

/-- The markup that shows the text, with a single backslash at its end doubled. -/
def escape (s : String) : String :=
  let cs := escapeChars (s.length + 1) s.toList
  let odd := cs.getLast? == some '\\' && cs.dropLast.getLast? != some '\\'
  String.ofList (if odd then cs ++ ['\\'] else cs)

/-- A backslash in front of an opening bracket is left out. -/
def dropBracketEscapes : List Char → List Char
  | '\\' :: '[' :: rest => '[' :: dropBracketEscapes rest
  | c :: rest => c :: dropBracketEscapes rest
  | [] => []

/-- A tag that was opened: the name of its style, its parameters, and the count of characters shown
in front of it. -/
structure OpenTag where
  name : String
  parameters : Option (List Char)
  start : Nat

/-- A part of the shown text with the words of its style, from one character up to another. -/
structure Span where
  style : String
  first : Nat
  last : Nat

/-- The part of the shown text that a tag styles if it ends in front of a character. -/
def OpenTag.spanTo (tag : OpenTag) (last : Nat) : Span :=
  ⟨tag.name ++ (tag.parameters.map fun cs => " " ++ String.ofList cs).getD "", tag.start, last⟩

/-- The name of a tag and its parameters behind an equals sign. -/
def tagParts (tag : List Char) : List Char × Option (List Char) :=
  match tag.dropWhile (· != '=') with
  | _ :: parameters => (tag.takeWhile (· != '='), some parameters)
  | [] => (tag, none)

/-- The part of the shown text that a tag styles which is closed in front of a character. A handler
styles none, but must have good arguments. -/
def close (tag : OpenTag) (last : Nat) : Except MarkupError (List Span) :=
  match tag.name.toList, tag.parameters with
  | '@' :: _, some (c :: rest) =>
    let arguments := Handler.arguments (Text.trim Text.isBlank (c :: rest))
    match Handler.problem? arguments with
    | some problem =>
      .error (.arguments (String.ofList arguments) (String.ofList (c :: rest)) problem)
    | none => .ok []
  | '@' :: _, _ => .ok []
  | _, _ => .ok [tag.spanTo last]

/-- The open tags after one more tag, the last opened first, and what the tag styles that it closes.
A closing tag that names no style closes the last one. `shown` counts the characters in front. -/
def openedAfter (opened : List OpenTag) (tag : List Char) (position shown : Nat) :
    Except MarkupError (List OpenTag × List Span) :=
  match tagParts tag with
  | ('/' :: name, _) =>
    if (Text.trim Text.isBlank name).isEmpty then
      match opened with
      | last :: rest => (close last shown).map fun spans => (rest, spans)
      | [] => .error (.nothingOpen position)
    else do
      let style ← (styleName name).mapError .component
      match opened.find? (·.name == style) with
      | some found =>
        (close found shown).map fun spans => (opened.eraseP (·.name == style), spans)
      | none => .error (.unopened (String.ofList tag) position)
  | (name, parameters) => do
    let style ← (styleName name).mapError .component
    return (⟨style, parameters, shown⟩ :: opened, [])

/-- Text between tags as it is shown. -/
def shown (cs : List Char) : List Char :=
  (Text.Emoji.replaceCodes (dropBracketEscapes cs)).filter Screen.isShown

/-- Markup as it is shown: its text, and the parts of it with styles in the order in which their
tags end. -/
structure Rendered where
  text : List Char
  spans : List Span

/-- Markup without a tag behind the last one. `before` are the characters shown in front of it, the
last one first, and tags that are open end here. -/
def rendered (opened : List OpenTag) (spans : List Span) (before text : List Char) : Rendered :=
  let all := before.reverse ++ shown text
  ⟨all, spans ++ opened.map fun tag => tag.spanTo all.length⟩

/-- The markup that starts at `position`, as it is shown behind other text, which is given with the
last character first. `text` is the text since the last tag. -/
def renderedFrom (opened : List OpenTag) (spans : List Span) (before text : List Char) :
    Nat → Nat → List Char → Except MarkupError Rendered
  | 0, _, _ => .ok (rendered opened spans before text)
  | _, _, [] => .ok (rendered opened spans before text)
  | fuel + 1, position, c :: rest =>
    let slashes := ((c :: rest).takeWhile (· == '\\')).length
    match (c :: rest).drop slashes with
    | '[' :: inside =>
      match tagBody? inside with
      | some (tag, left) => do
        let next := position + slashes + tag.length + 2
        let before := List.replicate (slashes / 2) '\\' ++ (shown text).reverse ++ before
        if slashes % 2 = 1 then
          let before := (shown ('[' :: tag ++ [']'])).reverse ++ before
          renderedFrom opened spans before [] fuel next left
        else
          let (opened, more) ← openedAfter opened tag (position + slashes) before.length
          renderedFrom opened (spans ++ more) before [] fuel next left
      | none =>
        renderedFrom opened spans before (text ++ List.replicate slashes '\\' ++ ['[']) fuel
          (position + slashes + 1) inside
    | left =>
      if slashes = 0 then renderedFrom opened spans before (text ++ [c]) fuel (position + 1) rest
      else
        renderedFrom opened spans before (text ++ List.replicate slashes '\\') fuel
          (position + slashes) left

namespace Rendered

/-- Whether a part of the text is drawn. Several lines, or the parts between tabs, are drawn one by
one, and what has no character in any of them is not. -/
def isDrawn (rendered : Rendered) (span : Span) : Bool :=
  !rendered.text.contains '\n' && !rendered.text.contains '\t' ||
    ((rendered.text.take span.last).drop span.first).any (· != '\n')

/-- The parts that are drawn, in the order in which they are: by their starts, and of those with one
start the last to end first. -/
def drawn (rendered : Rendered) : List Span :=
  (rendered.spans.filter rendered.isDrawn).reverse.mergeSort fun a b => decide (a.first ≤ b.first)

end Rendered

/-- Words of a style that can be read, or that are no style. -/
def Span.check (span : Span) : Except MarkupError Unit :=
  match Style.plain.read ((Text.words span.style.toList).map String.ofList) with
  | .error (.component e) => .error (.component e)
  | _ => .ok ()

/-- The text that a console shows for markup. -/
def plain (markup : String) : Except MarkupError String := do
  let rendered ← renderedFrom [] [] [] [] (markup.length + 1) 0 markup.toList
  rendered.drawn.forM Span.check
  return String.ofList (Screen.expandTabs [] rendered.text)

end ReportPress.Markup
