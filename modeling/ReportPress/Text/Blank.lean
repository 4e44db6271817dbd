/-!
White space. The Unicode property `White_Space` bounds a numeral in a record; the wider set that
adds the four information separators bounds words in settings files and on the command line.
-/

namespace ReportPress.Text

/-- The characters with the property `White_Space`. -/
def isWhiteSpace (c : Char) : Bool :=
  let code := c.toNat
  (0x9 ≤ code && code ≤ 0xD) || (0x2000 ≤ code && code ≤ 0x200A) ||
    [0x20, 0x85, 0xA0, 0x1680, 0x2028, 0x2029, 0x202F, 0x205F, 0x3000].contains code

/-- White space and the information separators. -/
def isBlank (c : Char) : Bool :=
  isWhiteSpace c || (0x1C ≤ c.toNat && c.toNat ≤ 0x1F)

/-- The blanks that do not end a line. -/
def isInlineBlank (c : Char) : Bool := isBlank c && c != '\n' && c != '\r'

/-- The text without the characters of the class at its end. -/
def trimEnd (drop : Char → Bool) (cs : List Char) : List Char :=
  (cs.reverse.dropWhile drop).reverse

/-- The text without the characters of the class at either end. -/
def trim (drop : Char → Bool) (cs : List Char) : List Char :=
  trimEnd drop (cs.dropWhile drop)

/-- The words of a text, `word` being the start of the first one, last character first. -/
def wordsFrom (word : List Char) : List Char → List (List Char)
  | [] => if word.isEmpty then [] else [word.reverse]
  | c :: rest =>
    if isBlank c then
      if word.isEmpty then wordsFrom [] rest else word.reverse :: wordsFrom [] rest
    else wordsFrom (c :: word) rest

/-- The words of a text, which blanks keep apart. -/
def words (cs : List Char) : List (List Char) := wordsFrom [] cs

end ReportPress.Text
