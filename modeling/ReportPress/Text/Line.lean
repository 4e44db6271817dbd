/-!
Lines of text. Text read from a file has all line ends turned into line feeds; text written keeps
the characters that it has.
-/

namespace ReportPress.Text

/-- The text with each carriage return, alone or before a line feed, turned into one line feed. -/
def unifyLineEnds : List Char → List Char
  | [] => []
  | '\r' :: '\n' :: rest => '\n' :: unifyLineEnds rest
  | '\r' :: rest => '\n' :: unifyLineEnds rest
  | c :: rest => c :: unifyLineEnds rest

/-- The lines as one text, a line feed between two neighbours. -/
def joinLines (lines : List String) : String := "\n".intercalate lines

end ReportPress.Text
