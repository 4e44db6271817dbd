import ReportPress.Command.Markup.Expression.Reader
import ReportPress.Text.CharacterName
import ReportPress.Text.Hex

/-!
Texts in quotes. A text may be raw, made of bytes, or computed; a computed text holds expressions in
braces. Texts side by side are one, and are of one kind.
-/

namespace ReportPress.Markup.Expression.Quoted

/-! ### Escapes -/

/-- Whether a character is written as it is where escapes are counted. -/
def isPlain (c : Char) : Bool := decide (c.toNat < 0x80)

/-- A character as an escape with all digits. -/
def spelled (c : Char) : List Char := '\\' :: 'U' :: Text.hexDigits 8 c.toNat

/-- A text of plain characters only: others become escapes, and so does a backslash that is in front
of one of them or stands at the end. -/
def spelledOut : List Char → List Char
  | '\\' :: c :: rest =>
    if isPlain c then '\\' :: c :: spelledOut rest
    else "\\u005c".toList ++ spelled c ++ spelledOut rest
  | ['\\'] => "\\u005c".toList
  | c :: rest => (if isPlain c then [c] else spelled c) ++ spelledOut rest
  | [] => []

/-- The count of digits behind the letter of an escape. -/
def codeLength? (letter : Char) : Option Nat :=
  match letter with
  | 'x' => some 2
  | 'u' => some 4
  | 'U' => some 8
  | _ => none

/-- The greatest code of a character. -/
def greatestCode : Nat := 0x10FFFF

/-- What is wrong with the digits of an escape, and how many there are. -/
def codeProblem? (letter : Char) (length : Nat) (rest : List Char) : Option (Nat × EscapeProblem) :=
  let digits := (rest.take length).takeWhile Text.isHexDigit
  if digits.length < length then some (digits.length, .shortCode letter)
  else if greatestCode < Text.hexNumber digits then
    some (length, .greatCode)
  else none

/-- What is wrong with the name of a character in an escape, and the length of the name with its
braces as far as it is looked at. -/
def nameProblem? (rest : List Char) : Option (Nat × EscapeProblem) :=
  match rest with
  | '{' :: inside =>
    let name := inside.takeWhile (· != '}')
    if name.length = inside.length then some (inside.length + 1, .malformedName)
    else if name.isEmpty then some (1, .malformedName)
    else if Text.CharacterName.isKnown name then none
    else some (name.length + 2, .unknownName)
  | _ => some (0, .malformedName)

/-- The first fault among the escapes of a text of plain characters, which starts at a position. -/
def escapeFault? (position : Nat) : List Char → Option Fault
  | '\\' :: letter :: rest =>
    let problem? := match codeLength? letter with
      | some length => codeProblem? letter length rest
      | none => if letter = 'N' then nameProblem? rest else none
    match problem? with
    | some (length, problem) => some (.escape position (position + 1 + length) problem)
    | none => escapeFault? (position + 2) rest
  | _ :: rest => escapeFault? (position + 1) rest
  | [] => none

/-- The first fault among the escapes of bytes. -/
def byteFault? (position : Nat) : List Char → Option Fault
  | '\\' :: letter :: rest =>
    if letter = 'x' ∧ ((rest.take 2).takeWhile Text.isHexDigit).length < 2 then
      some (.byteEscape position)
    else byteFault? (position + 2) rest
  | _ :: rest => byteFault? (position + 1) rest
  | [] => none

/-- Escapes without a fault. -/
def checkEscapes (isRaw : Bool) (cs : List Char) : Except Stop Unit :=
  match if isRaw then none else escapeFault? 0 (spelledOut cs) with
  | some fault => .error (.wrong fault)
  | none => .ok ()

/-- Bytes without a fault. -/
def checkBytes (isRaw : Bool) (cs : List Char) : Except Stop Unit :=
  if !cs.all isPlain then .error (.wrong .foreignBytes)
  else
    match if isRaw then none else byteFault? 0 cs with
    | some fault => .error (.wrong fault)
    | none => .ok ()

/-! ### Computed texts -/

/-- A fault of a computed text. -/
def problem {α : Type} (problem : ComputedProblem) : Except Stop α :=
  .error (.wrong (.computed problem))

/-- What a brace ends in the text between expressions: the last of that text, whether more of it
follows, and what follows; `none` for other characters. A doubled brace is one of the text, but not
inside the format of an expression. -/
def endOfLiteral? (level : Nat) (c : Char) (rest : List Char) :
    Option (Except Stop (List Char × Bool × List Char)) :=
  if c ≠ '{' ∧ c ≠ '}' then none
  else if level = 0 ∧ rest.head? = some c then some (.ok ([c], true, rest.drop 1))
  else if level = 0 ∧ c = '}' then some (problem .loneBrace)
  else some (.ok ([], false, c :: rest))

/-- More text in front of some. -/
def behind (text : List Char) (found : Except Stop (List Char × Bool × List Char)) :
    Except Stop (List Char × Bool × List Char) :=
  found.map fun (literal, goesOn, rest) => (text ++ literal, goesOn, rest)

/-- The text in front of an expression, whether more text follows, and what follows. `inName` says
that the name of a character goes on here. -/
def literal (level : Nat) (isRaw : Bool) : Bool → List Char →
    Except Stop (List Char × Bool × List Char)
  | _, [] => .ok ([], false, [])
  | true, c :: rest => behind [c] (literal level isRaw (c != '}') rest)
  | false, ['\\'] => .ok (['\\'], false, [])
  | false, ['\\', 'N'] => .ok (['\\', 'N'], false, [])
  | false, '\\' :: c :: rest =>
    if isRaw then behind ['\\'] (literal level isRaw false (c :: rest))
    else
      match c, rest with
      | 'N', next :: left => behind ['\\', 'N', next] (literal level isRaw (next == '{') left)
      | c, rest =>
        match endOfLiteral? level c rest with
        | some found => behind ['\\'] found
        | none => behind ['\\', c] (literal level isRaw false rest)
  | false, c :: rest =>
    match endOfLiteral? level c rest with
    | some found => found
    | none => behind [c] (literal level isRaw false rest)

/-- A place in an expression of a computed text: the quote that is open, whether it is a threefold
one, and the brackets that are open, the last one first. -/
structure Inside where
  quote : Option (Char × Bool)
  opened : List Char

namespace Inside

/-- The place behind a quote, and how many more characters belong to it. -/
def afterQuote (place : Inside) (c : Char) (rest : List Char) : Nat × Inside :=
  let isThreefold := [c, c].isPrefixOf rest
  match place.quote with
  | some (_, true) => if isThreefold then (2, { place with quote := none }) else (0, place)
  | some (_, false) => (0, { place with quote := none })
  | none =>
    if isThreefold then (2, { place with quote := some (c, true) })
    else (0, { place with quote := some (c, false) })

/-- The place behind a bracket. -/
def afterBracket (place : Inside) (c : Char) : Except Stop Inside :=
  match Token.openingOf? c, place.opened with
  | none, opened =>
    if Token.bracketLimit ≤ opened.length then problem .tooManyBrackets
    else .ok { place with opened := c :: opened }
  | some _, [] => problem (.unmatched c)
  | some opening, last :: rest =>
    if opening = last then .ok { place with opened := rest }
    else problem (.mismatched last c)

/-- The place behind a character and how many more characters belong to it, or `none` where the
expression ends. -/
def after (place : Inside) (c : Char) (rest : List Char) : Except Stop (Option (Nat × Inside)) :=
  if c = '\\' then problem .backslash
  else if place.quote.any (·.1 != c) then .ok (some (0, place))
  else if c = '"' ∨ c = '\'' then .ok (some (place.afterQuote c rest))
  else if c = '#' then problem .numberSign
  else if place.opened.isEmpty && ['!', '=', '<', '>'].contains c && rest.head? == some '=' then
    .ok (some (1, place))
  else if place.opened.isEmpty && ['!', ':', '}', '='].contains c then .ok none
  else if ['(', '[', '{', ')', ']', '}'].contains c then
    (place.afterBracket c).map fun place => some (0, place)
  else .ok (some (0, place))

/-- What is wrong where a text ends inside an expression. -/
def early (place : Inside) : ComputedProblem :=
  match place.quote, place.opened with
  | some _, _ => .unterminated
  | none, c :: _ => .unmatched c
  | none, [] => .missingBrace

end Inside

/-- An expression of a computed text, and what follows it. The next `skipped` characters belong to
the place. -/
def expressionText (place : Inside) : Nat → List Char → Except Stop (List Char × List Char)
  | _, [] => problem place.early
  | skipped + 1, c :: rest =>
    (expressionText place skipped rest).map fun (text, left) => (c :: text, left)
  | 0, c :: rest => do
    match ← place.after c rest with
    | none => return ([], c :: rest)
    | some (skipped, next) =>
      let (text, left) ← expressionText next skipped rest
      return (c :: text, left)

/-- What follows an equals sign behind an expression, and the blanks behind it. -/
def afterEquals (cs : List Char) : Except Stop (List Char) :=
  match cs with
  | '=' :: rest =>
    match rest.dropWhile fun c => c == ' ' || decide (9 ≤ c.toNat) && decide (c.toNat ≤ 13) with
    | [] => problem .missingBrace
    | left => .ok left
  | cs => .ok cs

/-- What follows the letter that says how the value is written. -/
def afterConversion (cs : List Char) : Except Stop (List Char) :=
  match cs with
  | ['!'] => problem .missingBrace
  | '!' :: letter :: rest =>
    if ['s', 'r', 'a'].contains letter then .ok rest else problem .conversion
  | cs => .ok cs

/-- The levels of expressions inside the formats of others. -/
def levelLimit : Nat := 2

/-- What follows an expression of a computed text, from behind its brace on. `inner` checks the
expression, and `format` its format. -/
def afterExpression (level : Nat) (inner : List Char → Except Stop Unit)
    (format : List Char → Except Stop (List Char)) (cs : List Char) : Except Stop (List Char) := do
  if levelLimit ≤ level then problem .tooDeep
  let (text, rest) ← expressionText ⟨none, []⟩ 0 cs
  if text.all fun c => [' ', '\t', '\n', '\x0c'].contains c then
    problem (.noExpression (rest.head?.filter (· != '}')))
  inner text
  let rest ← afterConversion (← afterEquals rest)
  let rest ← match rest with
    | [':'] => problem .missingBrace
    | ':' :: spec => format spec
    | rest => pure rest
  match rest with
  | '}' :: rest => return rest
  | _ => problem .missingBrace

/-- What follows a computed text: its end, or the brace behind a format. `inner` checks an
expression in front of a text. The fuel bounds the parts of the text. -/
def afterComputed (isRaw : Bool) (inner : List Char → List Char → Except Stop Unit) :
    Nat → Nat → List Char → Except Stop (List Char)
  | 0, _, cs => .ok cs
  | fuel + 1, level, cs => do
    let (text, goesOn, rest) ← literal level isRaw false cs
    checkEscapes isRaw text
    if goesOn then afterComputed isRaw inner fuel level rest
    else
      match rest with
      | '{' :: inside =>
        let format := afterComputed isRaw inner fuel (level + 1)
        afterComputed isRaw inner fuel level
          (← afterExpression level (inner inside) format inside)
      | [] => if level = 0 then return [] else problem .missingBrace
      | rest => return rest

/-! ### Texts side by side -/

/-- A text without a fault; `nested` reads an expression in it that starts in a line. -/
def check (nested : Nat → List Char → Except Stop Unit) (isOther : Bool) (line : Nat)
    (mark body : List Char) : Except Stop Unit := do
  let isRaw := mark.contains 'r'
  let isComputed := mark.contains 'f'
  if mark.contains 'b' then checkBytes isRaw body
  else if !isComputed then checkEscapes isRaw body
  if isOther then .error (.wrong .mixedTexts)
  if isComputed then
    let lineOf := fun rest : List Char => line + body.count '\n' - rest.count '\n'
    let _ ← afterComputed isRaw (fun rest => nested (lineOf rest)) (body.length + 1) 0 body

/-- What texts side by side are. -/
def kindOf (marks : List (List Char)) : Tree :=
  if marks.any (·.contains 'b') then .constant .bytes
  else if marks.any (·.contains 'f') then .computedText
  else .constant .text

/-- The text that texts side by side are, each checked before the next. -/
def joined (nested : Nat → List Char → Except Stop Unit) (texts : List Token) :
    Except Stop Tree := do
  let parts := texts.filterMap fun token => match token.lexeme with
    | .text mark body => some (token.line, mark, body)
    | _ => none
  let isBytes := fun mark : List Char => mark.contains 'b'
  let hasBytes := parts.head?.any fun (_, mark, _) => isBytes mark
  parts.forM fun (line, mark, body) => check nested (isBytes mark != hasBytes) line mark body
  return kindOf (parts.map (·.2.1))

end ReportPress.Markup.Expression.Quoted
