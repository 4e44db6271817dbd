import ReportPress.Command.Markup.Expression.Fault
import ReportPress.Text.Identifier

/-!
Tokens of an expression: names, numbers, texts in quotes and signs. Inside brackets line ends do not
count; outside they are tokens, as are the changes of the margin. Reading stops at the first fault.
-/

namespace ReportPress.Markup.Expression

/-- What a token is. Words with a meaning of their own are names here. -/
inductive Lexeme
  | name (word : String)
  | number (isImaginary : Bool)
  | text (mark body : List Char)
  | sign (word : String)
  | lineEnd
  | indent
  | dedent
  | ending
  deriving DecidableEq

/-- Whether a token is a text in quotes. -/
def Lexeme.isText : Lexeme → Bool
  | .text _ _ => true
  | _ => false

/-- A token with the line where it starts, the count of brackets that are open behind it, and
whether the end of the text was met in looking for its end. -/
structure Token where
  lexeme : Lexeme
  line : Nat
  depth : Nat
  meetsEnd : Bool

/-- The place where reading stops, with the brackets that are open there, the last one first, and
the line of each. A clear fault is told even where an expression is wrong in front of it. -/
structure Break where
  fault : Fault
  isClear : Bool
  opened : List (Char × Nat)

/-- The tokens of a text up to its end or to a fault. -/
structure Tokens where
  list : Array Token
  broken : Option Break

namespace Token

/-- A character that goes on in a name, though it may have no place there. -/
def isNamePart (c : Char) : Bool := c.isAlphanum || c == '_' || decide (0x80 ≤ c.toNat)

/-! ### Numbers -/

/-- Whether a word stands at the front. -/
def startsWithWord (cs : List Char) (word : String) : Bool :=
  word.toList.isPrefixOf cs && !(cs.drop word.length).head?.any isNamePart

/-- Whether a number may end in front of a text: no name goes on there, save the words that stand
between expressions. -/
def endsNumber (cs : List Char) : Bool :=
  !cs.head?.any isNamePart || ["and", "else", "for", "or", "not"].any (startsWithWord cs) ||
    ["if", "in", "is"].any fun word => word.toList.isPrefixOf cs

/-- What follows the digits of base ten at the front, between which single underscores may stand;
`none` for an underscore in another place. -/
def afterDigits? : List Char → Option (List Char)
  | '_' :: d :: rest => if d.isDigit then afterDigits? rest else none
  | ['_'] => none
  | c :: rest => if c.isDigit then afterDigits? rest else some (c :: rest)
  | [] => some []

/-- What follows the zeros at the front. -/
def afterZeros? : List Char → Option (List Char)
  | '_' :: d :: rest =>
    if d = '0' then afterZeros? rest else if d.isDigit then some (d :: rest) else none
  | ['_'] => none
  | '0' :: rest => afterZeros? rest
  | cs => some cs

/-- A number of base ten that ends here, if it may; a letter may make it imaginary. -/
def endOfNumber (cs : List Char) : Except Fault (Lexeme × List Char) :=
  match cs with
  | 'j' :: rest | 'J' :: rest =>
    if endsNumber rest then .ok (.number true, rest) else .error (.invalidNumber "imaginary")
  | cs => if endsNumber cs then .ok (.number false, cs) else .error (.invalidNumber "decimal")

/-- A number from behind its last digits of base ten on. -/
def endOfDigits (cs : Option (List Char)) : Except Fault (Lexeme × List Char) :=
  cs.elim (.error (.invalidNumber "decimal")) endOfNumber

/-- A number from the place of its exponent on. A letter without digits is no exponent. -/
def exponent (cs : List Char) : Except Fault (Lexeme × List Char) :=
  match cs with
  | letter :: rest =>
    if letter = 'e' ∨ letter = 'E' then
      match rest with
      | c :: digits =>
        if c = '+' ∨ c = '-' then
          if digits.head?.any Char.isDigit then endOfDigits (afterDigits? digits)
          else .error (.invalidNumber "decimal")
        else if c.isDigit then endOfDigits (afterDigits? digits)
        else if endsNumber cs then .ok (.number false, cs)
        else .error (.invalidNumber "decimal")
      | [] => .error (.invalidNumber "decimal")
    else endOfNumber cs
  | [] => endOfNumber cs

/-- A number from behind its point on. -/
def fraction (cs : List Char) : Except Fault (Lexeme × List Char) :=
  if cs.head?.any Char.isDigit then
    (afterDigits? cs).elim (.error (.invalidNumber "decimal")) exponent
  else exponent cs

/-- A number from behind the digits of its whole part on. -/
def afterWhole (cs : List Char) : Except Fault (Lexeme × List Char) :=
  match cs with
  | '.' :: rest => fraction rest
  | cs => exponent cs

/-- What follows the digits of another base, single underscores between them. -/
def afterRadixDigits (kind : String) (allowed : Char → Bool) :
    List Char → Except Fault (List Char)
  | '_' :: d :: rest =>
    if allowed d then afterRadixDigits kind allowed rest
    else .error (if d.isDigit then .invalidDigit d kind else .invalidNumber kind)
  | ['_'] => .error (.invalidNumber kind)
  | c :: rest =>
    if allowed c then afterRadixDigits kind allowed rest
    else if c.isDigit then .error (.invalidDigit c kind)
    else .ok (c :: rest)
  | [] => .ok []

/-- A number of another base from behind its letter on. -/
def radixNumber (kind : String) (allowed : Char → Bool) (cs : List Char) :
    Except Fault (Lexeme × List Char) := do
  let digits := if cs.head? = some '_' then cs else '_' :: cs
  let left ← afterRadixDigits kind allowed digits
  if endsNumber left then return (.number false, left) else .error (.invalidNumber kind)

/-- A number of base ten that starts with a zero, which only other zeros may follow in its whole
part. -/
def zeroNumber (cs : List Char) : Except Fault (Lexeme × List Char) :=
  match afterZeros? cs with
  | none => .error (.invalidNumber "decimal")
  | some left =>
    if left.head?.any Char.isDigit then
      match afterDigits? left with
      | none => .error (.invalidNumber "decimal")
      | some left =>
        if left.head?.any fun c => ['.', 'e', 'E', 'j', 'J'].contains c then afterWhole left
        else .error .leadingZeros
    else afterWhole left

/-- A number from its first digit on. -/
def number (cs : List Char) : Except Fault (Lexeme × List Char) :=
  match cs with
  | '0' :: letter :: rest =>
    let lower := letter.toLower
    if lower = 'x' then
      radixNumber "hexadecimal" (fun c => c.isDigit || ('a' ≤ c.toLower && c.toLower ≤ 'f')) rest
    else if lower = 'o' then radixNumber "octal" (fun c => '0' ≤ c && c ≤ '7') rest
    else if lower = 'b' then radixNumber "binary" (fun c => c == '0' || c == '1') rest
    else zeroNumber (letter :: rest)
  | cs => (afterDigits? cs).elim (.error (.invalidNumber "decimal")) afterWhole

/-! ### Texts and names -/

/-- The marks that letters in front of a quote are, in small letters. -/
def marks : List String := ["", "b", "br", "rb", "u", "r", "f", "fr", "rf"]

/-- What stands between two quotes, from behind the first one on, and what follows, or `none` if
the line ends first. -/
def shortText (quote : Char) : List Char → Option (List Char × List Char)
  | [] => none
  | '\\' :: c :: rest =>
    (shortText quote rest).map fun (body, left) => ('\\' :: c :: body, left)
  | c :: rest =>
    if c = quote then some ([], rest)
    else if c = '\n' then none
    else (shortText quote rest).map fun (body, left) => (c :: body, left)

/-- What stands between two threefold quotes, from behind the first ones on, and what follows. -/
def longText (quote : Char) : List Char → Option (List Char × List Char)
  | [] => none
  | '\\' :: c :: rest =>
    (longText quote rest).map fun (body, left) => ('\\' :: c :: body, left)
  | c :: rest =>
    if [quote, quote, quote].isPrefixOf (c :: rest) then some ([], rest.drop 2)
    else (longText quote rest).map fun (body, left) => (c :: body, left)

/-- The count of lines that end in a text and go on behind it. -/
def lineEnds (cs : List Char) : Nat := cs.dropLast.count '\n'

/-- The line where a text that is not closed was given up, from behind its quote on. -/
def lineOfLoss : Nat → List Char → Nat
  | line, '\\' :: '\n' :: rest => lineOfLoss (if rest.isEmpty then line else line + 1) rest
  | line, '\\' :: _ :: rest => lineOfLoss line rest
  | line, c :: rest => if c = '\n' then line else lineOfLoss line rest
  | line, [] => line

/-- A text from behind its first quote on, and what follows. -/
def text (mark : List Char) (line : Nat) (quote : Char) (rest : List Char) :
    Except Fault (Lexeme × List Char) :=
  if [quote, quote].isPrefixOf rest then
    match longText quote (rest.drop 2) with
    | some (body, left) => .ok (.text mark body, left)
    | none => .error (.unterminatedLongText (line + lineEnds rest))
  else
    match shortText quote rest with
    | some (body, left) => .ok (.text mark body, left)
    | none => .error (.unterminatedText (lineOfLoss line rest))

/-- The first character of a name that has no place there. -/
def strayCharacter? (word : List Char) : Option Char :=
  match word with
  | c :: rest =>
    if Text.startsIdentifier c then rest.find? fun c => !Text.isIdentifierPart c else some c
  | [] => none

/-- A name, or the text that it marks, and what follows. -/
def nameOrText (line : Nat) (cs : List Char) : Except Fault (Lexeme × List Char) :=
  let word := cs.takeWhile isNamePart
  let left := cs.drop word.length
  let mark := word.map Char.toLower
  match left with
  | c :: rest =>
    if (c = '"' ∨ c = '\'') ∧ marks.contains (String.ofList mark) then text mark line c rest
    else plainName word left
  | [] => plainName word left
where
  /-- A name, unless a character has no place in it. -/
  plainName (word left : List Char) : Except Fault (Lexeme × List Char) :=
    match strayCharacter? word with
    | some c => .error (.invalidCharacter c)
    | none => .ok (.name (String.ofList word), left)

/-! ### Signs -/

/-- The signs of more than one character, those of three first. -/
def longSigns : List String :=
  ["...", "**=", "//=", "<<=", ">>=", "!=", "%=", "&=", "**", "*=", "+=", "-=", "->", "//", "/=",
    ":=", "<<", "<=", "<>", "==", ">=", ">>", "@=", "^=", "|="]

/-- The most brackets that may be open at once. -/
def bracketLimit : Nat := 200

/-- The bracket that one closes. -/
def openingOf? (c : Char) : Option Char := [(')', '('), (']', '['), ('}', '{')].lookup c

/-- The brackets that are open behind a sign of one character. -/
def bracketsAfter (opened : List (Char × Nat)) (line : Nat) (c : Char) :
    Except Fault (List (Char × Nat)) :=
  if c = '(' ∨ c = '[' ∨ c = '{' then
    if bracketLimit ≤ opened.length then .error .tooManyBrackets else .ok ((c, line) :: opened)
  else
    match openingOf? c, opened with
    | none, _ => .ok opened
    | some _, [] => .error (.unmatched c)
    | some opening, (last, lastLine) :: rest =>
      if opening = last then .ok rest
      else .error (.mismatched last c (if lastLine = line then none else some lastLine))

/-- A sign, the brackets that are open behind it, and what follows. -/
def sign (opened : List (Char × Nat)) (line : Nat) (c : Char) (rest : List Char) :
    Except Fault (Lexeme × List (Char × Nat) × List Char) :=
  match longSigns.find? fun sign => sign.toList.isPrefixOf (c :: rest) with
  | some word => .ok (.sign word, opened, (c :: rest).drop word.length)
  | none => do
    let opened ← bracketsAfter opened line c
    if Text.isPrintable c then return (.sign c.toString, opened, rest)
    else .error (.invalidCharacter c)

end Token

/-! ### Lines -/

/-- A place in a text: what follows, the number of the line, the brackets that are open, whether a
line starts here, and the margins that are open, the last one first. A margin is told in two ways,
which must agree: with wide tabs and with narrow ones. -/
structure Scanner where
  rest : List Char
  line : Nat
  opened : List (Char × Nat)
  startsLine : Bool
  margins : List (Nat × Nat)

namespace Scanner

/-- The start of a text whose first line has a number. -/
def start (line : Nat) (cs : List Char) : Scanner := ⟨cs, line, [], true, [(0, 0)]⟩

/-- The number of the line behind the end of one; none starts at the end of the text. -/
def nextLine (line : Nat) (rest : List Char) : Nat := if rest.isEmpty then line else line + 1

/-- A fault at this place. -/
def broken (s : Scanner) (fault : Fault) (isClear : Bool) : Break := ⟨fault, isClear, s.opened⟩

/-- What is wrong where the text ends too early. -/
def early (s : Scanner) : Break :=
  s.broken (match s.opened with
    | (c, _) :: _ => .unclosed c
    | [] => .earlyEnd) false

/-- The blanks of tabs, wide and narrow. -/
def tabStop : Nat := 8

/-- The margin at the start of a line, with the place behind it; `held` is the margin of a line that
goes on here. -/
def margin (s : Scanner) (wide narrow : Nat) (held : Option Nat) :
    List Char → Except Break ((Nat × Nat) × Scanner)
  | ' ' :: rest => margin s (wide + 1) (narrow + 1) held rest
  | '\t' :: rest => margin s ((wide / tabStop + 1) * tabStop) (narrow + 1) held rest
  | '\x0c' :: rest => margin s 0 0 held rest
  | '\\' :: '\n' :: rest =>
    if rest.isEmpty then .error { s with rest := [] }.early
    else
      let column := held.getD wide
      margin { s with line := s.line + 1 } wide narrow
        (if column = 0 then none else some column) rest
  | '\\' :: _ => .error (s.broken .strayBackslash false)
  | rest => .ok ((held.getD wide, held.getD narrow), { s with rest, startsLine := false })

/-- The tokens for a margin, and the place with the margins that are then open. -/
def marginTokens (s : Scanner) (found : Nat × Nat) : Except Break (List Lexeme × Scanner) :=
  match s.margins with
  | [] => .ok ([], s)
  | last :: _ =>
    if found.1 = last.1 then
      if found.2 = last.2 then .ok ([], s) else .error (s.broken .mixedMargin false)
    else if last.1 < found.1 then
      if last.2 < found.2 then .ok ([.indent], { s with margins := found :: s.margins })
      else .error (s.broken .mixedMargin false)
    else
      let kept := s.margins.dropWhile fun margin => found.1 < margin.1
      match kept with
      | margin :: _ =>
        if margin.1 ≠ found.1 then .error (s.broken .unevenMargin false)
        else if margin.2 ≠ found.2 then .error (s.broken .mixedMargin false)
        else
          let closed := s.margins.length - kept.length
          .ok (List.replicate closed .dedent, { s with margins := kept })
      | [] => .error (s.broken .unevenMargin false)

/-- The place behind blanks, a comment and line ends with a backslash in front of them. -/
def skip : Nat → Scanner → Except Break Scanner
  | 0, s => .ok s
  | fuel + 1, s =>
    match s.rest.dropWhile fun c => c == ' ' || c == '\t' || c == '\x0c' with
    | '#' :: rest => skip fuel { s with rest := rest.dropWhile (· != '\n') }
    | '\\' :: '\n' :: rest =>
      if rest.isEmpty then .error { s with rest := [] }.early
      else skip fuel { s with rest, line := s.line + 1 }
    | '\\' :: _ => .error (s.broken .strayBackslash false)
    | rest => .ok { s with rest }

/-- The tokens at a place, none where a line is passed over, and the place behind them. -/
def next (s : Scanner) : Except Break (List Lexeme × Scanner) := do
  let (lexemes, s, isBlankLine) ←
    if s.startsLine then do
      let (found, s) ← s.margin 0 0 none s.rest
      let isBlankLine := s.rest.head? == some '#' || s.rest.head? == some '\n'
      if isBlankLine || !s.opened.isEmpty then pure ([], s, isBlankLine)
      else
        let (lexemes, s) ← s.marginTokens found
        pure (lexemes, s, false)
    else pure ([], s, false)
  if !lexemes.isEmpty then return (lexemes, s)
  let s ← skip (s.rest.length + 1) s
  match s.rest with
  | [] => if s.opened.isEmpty then return ([.ending], s) else .error s.early
  | '\n' :: rest =>
    let after := { s with rest, line := nextLine s.line rest, startsLine := true }
    return (if isBlankLine || !s.opened.isEmpty then [] else [.lineEnd], after)
  | c :: rest =>
    let read := fun (found : Except Fault (Lexeme × List Char)) =>
      (found.mapError (s.broken · true)).map fun (lexeme, rest) =>
        let taken := s.rest.take (s.rest.length - rest.length)
        ([lexeme], { s with rest, line := s.line + taken.count '\n' })
    if c.isDigit then read (Token.number s.rest)
    else if c = '.' && rest.head?.any Char.isDigit then read (Token.fraction rest)
    else if Token.isNamePart c then read (Token.nameOrText s.line s.rest)
    else if c = '"' ∨ c = '\'' then read (Token.text [] s.line c rest)
    else
      match Token.sign s.opened s.line c rest with
      | .ok (lexeme, opened, rest) => return ([lexeme], { s with rest, opened })
      | .error fault => .error (s.broken fault true)

/-- Whether the character behind a token is looked at before its end is known. -/
def looksBehind : Lexeme → Bool
  | .text _ _ | .lineEnd => false
  | .sign word => word.length < 3
  | _ => true

/-- The tokens from a place on, last one first, behind those found before. The fuel bounds their
number. -/
def readFrom : Nat → Scanner → List Token → List Token × Option Break
  | 0, _, found => (found, none)
  | fuel + 1, s, found =>
    match s.next with
    | .error stop => (found, some stop)
    | .ok (lexemes, after) =>
      let line := if lexemes == [.lineEnd] then s.line else after.line
      let lineOf := fun lexeme => match lexeme with
        | .text _ body => after.line - body.count '\n'
        | _ => line
      let tokens := lexemes.map fun lexeme =>
        ⟨lexeme, lineOf lexeme, after.opened.length, looksBehind lexeme && after.rest.isEmpty⟩
      if lexemes == [.ending] then (tokens ++ found, none)
      else readFrom fuel after (tokens.reverse ++ found)

end Scanner

/-- The tokens of a text whose first line has a number. -/
def Tokens.ofText (line : Nat) (cs : List Char) : Tokens :=
  let (found, broken) := (Scanner.start line cs).readFrom (2 * cs.length + 3) []
  ⟨found.reverse.toArray, broken⟩

end ReportPress.Markup.Expression
