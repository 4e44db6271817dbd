import ReportPress.Text.Printable
import ReportPress.Text.Quoted

/-!
What may be wrong with an expression: its tokens, the texts in quotes, or the way in which the
tokens follow one another.
-/

namespace ReportPress.Markup.Expression

/-- What is wrong with an escape in a text. -/
inductive EscapeProblem
  | shortCode (letter : Char)
  | greatCode
  | malformedName
  | unknownName
  deriving DecidableEq

/-- What is wrong with a text that is computed. -/
inductive ComputedProblem
  | loneBrace
  | missingBrace
  | noExpression (next : Option Char)
  | backslash
  | numberSign
  | unterminated
  | unmatched (bracket : Char)
  | mismatched (opening closing : Char)
  | tooManyBrackets
  | tooDeep
  | conversion
  deriving DecidableEq

/-- What is wrong with the parameters of a small function. -/
inductive ParameterProblem
  | missingDefault
  | inBrackets
  | slashFirst
  | secondSlash
  | slashBehindStar
  | noCommaBeforeStar
  | bareStar
  | defaultOfRest
  | secondStar
  | defaultOfKeywords
  | behindKeywords
  | emptyDefault
  deriving DecidableEq

/-- What is wrong with an expression. -/
inductive Fault
  | unmatched (closing : Char)
  | mismatched (opening closing : Char) (line : Option Nat)
  | tooManyBrackets
  | unclosed (opening : Char)
  | unterminatedText (line : Nat)
  | unterminatedLongText (line : Nat)
  | invalidNumber (kind : String)
  | invalidDigit (digit : Char) (kind : String)
  | leadingZeros
  | invalidCharacter (c : Char)
  | strayBackslash
  | earlyEnd
  | indented
  | dedented
  | unevenMargin
  | mixedMargin
  | mixedTexts
  | foreignBytes
  | escape (first last : Nat) (problem : EscapeProblem)
  | byteEscape (position : Nat)
  | computed (problem : ComputedProblem)
  | parameter (problem : ParameterProblem)
  | unexpected
  | missingComma
  | missingElse
  | missingBrackets (name : String)
  | missingEquality
  | namedExpression (kind : String)
  | assignedHere (kind : String)
  | assigned (kind : String)
  | keywordExpression
  | starredGroup
  | doublyStarredGroup
  | starredElement
  | starredEntries
  | elementWithoutBrackets
  | starredValue
  | missingColon
  | missingValue
  | openGenerator
  | iterableBehindMapping
  | valueBehindMapping
  | valueBehindKeyword
  | nested (fault : Fault)
  deriving DecidableEq

def EscapeProblem.message : EscapeProblem → String
  | .shortCode letter =>
    let digits := if letter = 'x' then "XX" else if letter = 'u' then "XXXX" else "XXXXXXXX"
    "truncated \\" ++ letter.toString ++ digits ++ " escape"
  | .greatCode => "illegal Unicode character"
  | .malformedName => "malformed \\N character escape"
  | .unknownName => "unknown Unicode character name"

def ComputedProblem.message : ComputedProblem → String
  | .loneBrace => "f-string: single '\x7d' is not allowed"
  | .missingBrace => "f-string: expecting '\x7d'"
  | .noExpression (some c) => "f-string: expression required before '" ++ c.toString ++ "'"
  | .noExpression none => "f-string: empty expression not allowed"
  | .backslash => "f-string expression part cannot include a backslash"
  | .numberSign => "f-string expression part cannot include '#'"
  | .unterminated => "f-string: unterminated string"
  | .unmatched c => "f-string: unmatched '" ++ c.toString ++ "'"
  | .mismatched opening closing =>
    "f-string: closing parenthesis '" ++ closing.toString ++
      "' does not match opening parenthesis '" ++ opening.toString ++ "'"
  | .tooManyBrackets => "f-string: too many nested parenthesis"
  | .tooDeep => "f-string: expressions nested too deeply"
  | .conversion => "f-string: invalid conversion character: expected 's', 'r', or 'a'"

def ParameterProblem.message : ParameterProblem → String
  | .missingDefault => "non-default argument follows default argument"
  | .inBrackets => "Lambda expression parameters cannot be parenthesized"
  | .slashFirst => "at least one argument must precede /"
  | .secondSlash => "/ may appear only once"
  | .slashBehindStar => "/ must be ahead of *"
  | .noCommaBeforeStar => "expected comma between / and *"
  | .bareStar => "named arguments must follow bare *"
  | .defaultOfRest => "var-positional argument cannot have default value"
  | .secondStar => "* argument may appear only once"
  | .defaultOfKeywords => "var-keyword argument cannot have default value"
  | .behindKeywords => "arguments cannot follow var-keyword argument"
  | .emptyDefault => "expected default value expression"

/-- The code of a character as it is written in messages. -/
def codeText (c : Char) : String :=
  "U+" ++ String.ofList ((Text.hexDigits 4 c.toNat).map Char.toUpper)

def Fault.message : Fault → String
  | .unmatched c => "unmatched '" ++ c.toString ++ "'"
  | .mismatched opening closing line =>
    "closing parenthesis '" ++ closing.toString ++ "' does not match opening parenthesis '" ++
      opening.toString ++ "'" ++ (line.map fun line => " on line " ++ line.repr).getD ""
  | .tooManyBrackets => "too many nested parentheses"
  | .unclosed c => "'" ++ c.toString ++ "' was never closed"
  | .unterminatedText line => "unterminated string literal (detected at line " ++ line.repr ++ ")"
  | .unterminatedLongText line =>
    "unterminated triple-quoted string literal (detected at line " ++ line.repr ++ ")"
  | .invalidNumber kind => "invalid " ++ kind ++ " literal"
  | .invalidDigit c kind => "invalid digit '" ++ c.toString ++ "' in " ++ kind ++ " literal"
  | .leadingZeros =>
    "leading zeros in decimal integer literals are not permitted; " ++
      "use an 0o prefix for octal integers"
  | .invalidCharacter c =>
    if Text.isPrintable c then "invalid character '" ++ c.toString ++ "' (" ++ codeText c ++ ")"
    else "invalid non-printable character " ++ codeText c
  | .strayBackslash => "unexpected character after line continuation character"
  | .earlyEnd => "unexpected EOF while parsing"
  | .indented => "unexpected indent"
  | .dedented => "unexpected unindent"
  | .unevenMargin => "unindent does not match any outer indentation level"
  | .mixedMargin => "inconsistent use of tabs and spaces in indentation"
  | .mixedTexts => "cannot mix bytes and nonbytes literals"
  | .foreignBytes => "bytes can only contain ASCII literal characters"
  | .escape first last problem =>
    "(unicode error) 'unicodeescape' codec can't decode bytes in position " ++ first.repr ++ "-" ++
      last.repr ++ ": " ++ problem.message
  | .byteEscape position => "(value error) invalid \\x escape at position " ++ position.repr
  | .computed problem => problem.message
  | .parameter problem => problem.message
  | .unexpected => "invalid syntax"
  | .missingComma => "invalid syntax. Perhaps you forgot a comma?"
  | .missingElse => "expected 'else' after 'if' expression"
  | .missingBrackets name =>
    "Missing parentheses in call to '" ++ name ++ "'. Did you mean " ++ name ++ "(...)?"
  | .missingEquality => "invalid syntax. Maybe you meant '==' or ':=' instead of '='?"
  | .namedExpression kind => "cannot use assignment expressions with " ++ kind
  | .assignedHere kind =>
    "cannot assign to " ++ kind ++ " here. Maybe you meant '==' instead of '='?"
  | .assigned kind => "cannot assign to " ++ kind
  | .keywordExpression => "expression cannot contain assignment, perhaps you meant \"==\"?"
  | .starredGroup => "cannot use starred expression here"
  | .doublyStarredGroup => "cannot use double starred expression here"
  | .starredElement => "iterable unpacking cannot be used in comprehension"
  | .starredEntries => "dict unpacking cannot be used in dict comprehension"
  | .elementWithoutBrackets => "did you forget parentheses around the comprehension target?"
  | .starredValue => "cannot use a starred expression in a dictionary value"
  | .missingColon => "':' expected after dictionary key"
  | .missingValue => "expression expected after dictionary key and ':'"
  | .openGenerator => "Generator expression must be parenthesized"
  | .iterableBehindMapping => "iterable argument unpacking follows keyword argument unpacking"
  | .valueBehindMapping => "positional argument follows keyword argument unpacking"
  | .valueBehindKeyword => "positional argument follows keyword argument"
  | .nested fault => "f-string: " ++ fault.message

end ReportPress.Markup.Expression
