import ReportPress.Json
import ReportPress.Text.Hex
import ReportPress.Text.Numeral

/-!
Reading JSON text: the standard grammar and the names `NaN`, `Infinity` and `-Infinity`. A key given
twice keeps its first place and its last value. Reading stops at the first fault and tells where it
is; the places are kept as the number of characters that were left, and turned into an offset, a
line and a column at the end. Schema documents and records are read alike, but for what is bounded
in them.
-/

namespace ReportPress.Json

/-- What is wrong with a text that is no JSON. -/
inductive Problem
  | expectedValue
  | expectedName
  | expectedColon
  | expectedComma
  | unterminatedString
  | controlCharacter
  | invalidEscape
  | invalidUnicodeEscape
  | extraData
  | byteOrderMark
  | tooManyDigits (count : Nat)
  | tooDeep
  deriving DecidableEq

/-- What is bounded in a text: in a document the digits of whole numbers, in a record the characters
of the whole part of every number, its sign among them, and the nesting of values. -/
inductive Limits
  | documents
  | records
  deriving DecidableEq

namespace Limits

/-- How many lists and objects that are not empty may stand in each other in a record. -/
def recordNesting : Nat := 200

/-- Whether a number has too long a whole part. -/
def isTooLong (limits : Limits) (isWhole negative : Bool) (digits : Nat) : Bool :=
  match limits with
  | documents => isWhole && decide (Text.digitLimit < digits)
  | records => decide (Text.digitLimit < digits + if negative then 1 else 0)

/-- How many lists and objects that are not empty may stand in each other in a text of the given
length, which is no bound for documents. -/
def room (limits : Limits) (length : Nat) : Nat :=
  match limits with
  | documents => length
  | records => recordNesting

end Limits

/-- A problem, and how many characters were left where it was met. -/
structure Stop where
  problem : Problem
  left : Nat

namespace Reader

/-- The four characters that may stand between any two tokens. -/
def isSpace (c : Char) : Bool := c == ' ' || c == '\t' || c == '\n' || c == '\r'

/-- The text from the next token on. -/
def skip (cs : List Char) : List Char := cs.dropWhile isSpace

/-- The code unit that four hexadecimal digits stand for. -/
def codeUnit? (a b c d : Char) : Option Nat :=
  let digits := [a, b, c, d]
  if digits.all Text.isHexDigit then some (Text.hexNumber digits) else none

def isHighSurrogate (unit : Nat) : Bool := 0xD800 ≤ unit && unit < 0xDC00

def isLowSurrogate (unit : Nat) : Bool := 0xDC00 ≤ unit && unit < 0xE000

/-- The character that a letter after a backslash stands for. -/
def escaped? (c : Char) : Option Char :=
  if c = '"' ∨ c = '\\' ∨ c = '/' then some c
  else if c = 'n' then some '\n'
  else if c = 'r' then some '\r'
  else if c = 't' then some '\t'
  else if c = 'b' then some '\x08'
  else if c = 'f' then some '\x0c'
  else none

/-- A string from behind its opening quote up to behind its closing one. A code unit needs a
character after its digits, and a high surrogate a low one after it. `opening` is the text from the
opening quote on. -/
def string (opening : List Char) : List Char → Except Stop (List Char × List Char)
  | [] => .error ⟨.unterminatedString, opening.length⟩
  | '\\' :: 'u' :: a :: b :: c :: d :: e :: rest =>
    match codeUnit? a b c d with
    | none => .error ⟨.invalidUnicodeEscape, rest.length + 6⟩
    | some high =>
      if isHighSurrogate high then
        match e, rest with
        | '\\', 'u' :: f :: g :: h :: i :: rest =>
          match if rest.isEmpty then none else codeUnit? f g h i with
          | none => .error ⟨.invalidUnicodeEscape, rest.length + 5⟩
          | some low =>
            if isLowSurrogate low then
              (string opening rest).map fun (text, left) =>
                (Char.ofNat (0x10000 + (high - 0xD800) * 0x400 + (low - 0xDC00)) :: text, left)
            else .error ⟨.invalidUnicodeEscape, rest.length + 11⟩
        | _, rest => .error ⟨.invalidUnicodeEscape, rest.length + 6⟩
      else if isLowSurrogate high then .error ⟨.invalidUnicodeEscape, rest.length + 6⟩
      else (string opening (e :: rest)).map fun (text, left) => (Char.ofNat high :: text, left)
  | '\\' :: 'u' :: rest => .error ⟨.invalidUnicodeEscape, rest.length + 1⟩
  | '\\' :: c :: rest =>
    match escaped? c with
    | none => .error ⟨.invalidEscape, rest.length + 2⟩
    | some escaped => (string opening rest).map fun (text, left) => (escaped :: text, left)
  | '\\' :: [] => .error ⟨.unterminatedString, opening.length⟩
  | c :: rest =>
    if c = '"' then .ok ([], rest)
    else if c.toNat < 0x20 then .error ⟨.controlCharacter, rest.length + 1⟩
    else (string opening rest).map fun (text, left) => (c :: text, left)

/-- The digits of a fraction after a point, if there are any. -/
def fraction (cs : List Char) : List Char × List Char :=
  match cs with
  | '.' :: rest =>
    let digits := rest.takeWhile Char.isDigit
    if digits.isEmpty then ([], cs) else (digits, rest.dropWhile Char.isDigit)
  | _ => ([], cs)

/-- An exponent, if there is a whole one. -/
def exponent (cs : List Char) : Option Int × List Char :=
  match cs with
  | c :: rest =>
    if c == 'e' || c == 'E' then
      let (negative, body) : Bool × List Char :=
        match rest with
        | '-' :: body => (true, body)
        | '+' :: body => (false, body)
        | body => (false, body)
      let digits := body.takeWhile Char.isDigit
      if digits.isEmpty then (none, cs)
      else
        let size : Int := Nat.ofDigitChars 10 digits 0
        (some (if negative then -size else size), body.dropWhile Char.isDigit)
    else (none, cs)
  | [] => (none, cs)

/-- A number whose whole part is known: whole itself if neither fraction nor exponent follows. -/
def numberAfter (limits : Limits) (negative : Bool) (whole : List Char) (cs : List Char) :
    Except Stop (Json × List Char) :=
  let (places, afterPlaces) := fraction cs
  let (power?, rest) := exponent afterPlaces
  let isWhole := places.isEmpty && power?.isNone
  if limits.isTooLong isWhole negative whole.length then
    .error ⟨.tooManyDigits whole.length, cs.length⟩
  else if isWhole then
    let size : Int := Nat.ofDigitChars 10 whole 0
    .ok (.int (if negative then -size else size), rest)
  else
    let digits := Nat.ofDigitChars 10 (whole ++ places) 0
    let value : Decimal := ⟨digits, power?.getD 0 - places.length⟩
    .ok (.float (value.toBinary64 negative), rest)

/-- A number, which starts with a zero only if that is its whole part. -/
def number (limits : Limits) (cs : List Char) : Except Stop (Json × List Char) :=
  let (negative, body) : Bool × List Char :=
    match cs with
    | '-' :: body => (true, body)
    | body => (false, body)
  match body with
  | '0' :: rest => numberAfter limits negative ['0'] rest
  | c :: _ =>
    if c.isDigit then
      numberAfter limits negative (body.takeWhile Char.isDigit) (body.dropWhile Char.isDigit)
    else .error ⟨.expectedValue, cs.length⟩
  | [] => .error ⟨.expectedValue, cs.length⟩

/-- A value that is neither list, object nor string. -/
def scalar (limits : Limits) (cs : List Char) : Except Stop (Json × List Char) :=
  match cs with
  | 'n' :: 'u' :: 'l' :: 'l' :: rest => .ok (.null, rest)
  | 't' :: 'r' :: 'u' :: 'e' :: rest => .ok (.bool true, rest)
  | 'f' :: 'a' :: 'l' :: 's' :: 'e' :: rest => .ok (.bool false, rest)
  | 'N' :: 'a' :: 'N' :: rest => .ok (.float .nan, rest)
  | 'I' :: 'n' :: 'f' :: 'i' :: 'n' :: 'i' :: 't' :: 'y' :: rest =>
    .ok (.float (.infinite false), rest)
  | '-' :: 'I' :: 'n' :: 'f' :: 'i' :: 'n' :: 'i' :: 't' :: 'y' :: rest =>
    .ok (.float (.infinite true), rest)
  | _ => number limits cs

/-- What stands in a list or object that is not empty, for which there has to be room. -/
def inside {α : Type} (room left : Nat) (read : Nat → Except Stop α) : Except Stop α :=
  match room with
  | 0 => .error ⟨.tooDeep, left⟩
  | room + 1 => read room

mutual

/-- A value at the front of the text, where there is room for as many lists and objects in each
other. The fuel is used up by two for a character at most. -/
def value (limits : Limits) : Nat → Nat → List Char → Except Stop (Json × List Char)
  | 0, _, cs => .error ⟨.expectedValue, cs.length⟩
  | fuel + 1, room, cs =>
    match cs with
    | '"' :: rest => (string cs rest).map fun (text, left) => (.str (String.ofList text), left)
    | '[' :: rest =>
      match skip rest with
      | ']' :: rest => .ok (.arr [], rest)
      | rest =>
        (inside room rest.length fun room => items limits fuel room rest).map fun (items, left) =>
          (.arr items, left)
    | '{' :: rest =>
      match skip rest with
      | '}' :: rest => .ok (.obj [], rest)
      | rest =>
        (inside room rest.length fun room => members limits fuel room [] rest).map
          fun (members, left) => (.obj members, left)
    | _ => scalar limits cs

/-- The items of a list from the first token of one to behind the closing bracket. -/
def items (limits : Limits) : Nat → Nat → List Char → Except Stop (List Json × List Char)
  | 0, _, cs => .error ⟨.expectedValue, cs.length⟩
  | fuel + 1, room, cs => do
    let (item, left) ← value limits fuel room cs
    match skip left with
    | ']' :: rest => return ([item], rest)
    | ',' :: rest =>
      let (others, left) ← items limits fuel room (skip rest)
      return (item :: others, left)
    | rest => .error ⟨.expectedComma, rest.length⟩

/-- The members of an object from the first token of one to behind the closing brace, put one by
one into those read before. -/
def members (limits : Limits) :
    Nat → Nat → Members → List Char → Except Stop (Members × List Char)
  | 0, _, _, cs => .error ⟨.expectedValue, cs.length⟩
  | fuel + 1, room, before, cs =>
    match cs with
    | '"' :: rest => do
      let (key, left) ← string cs rest
      match skip left with
      | ':' :: rest =>
        let (item, left) ← value limits fuel room (skip rest)
        let known := before.put (String.ofList key) item
        match skip left with
        | '}' :: rest => return (known, rest)
        | ',' :: rest => members limits fuel room known (skip rest)
        | rest => .error ⟨.expectedComma, rest.length⟩
      | rest => .error ⟨.expectedColon, rest.length⟩
    | _ => .error ⟨.expectedName, cs.length⟩

end

/-- A whole text: one value and white space. -/
def document (limits : Limits) (cs : List Char) : Except Stop Json := do
  if cs.head? = some '\uFEFF' then .error ⟨.byteOrderMark, cs.length⟩
  let (found, left) ← value limits (2 * cs.length + 2) (limits.room cs.length) (skip cs)
  match skip left with
  | [] => return found
  | rest => .error ⟨.extraData, rest.length⟩

end Reader

/-- A problem and the characters of the text in front of it. -/
structure SyntaxError where
  problem : Problem
  before : List Char

namespace SyntaxError

/-- The number of the line, from 1. -/
def line (e : SyntaxError) : Nat := e.before.count '\n' + 1

/-- The number of the column, from 1. -/
def column (e : SyntaxError) : Nat := (e.before.reverse.takeWhile (· != '\n')).length + 1

end SyntaxError

def Problem.message : Problem → String
  | .expectedValue => "Expecting value"
  | .expectedName => "Expecting property name enclosed in double quotes"
  | .expectedColon => "Expecting ':' delimiter"
  | .expectedComma => "Expecting ',' delimiter"
  | .unterminatedString => "Unterminated string starting at"
  | .controlCharacter => "Invalid control character at"
  | .invalidEscape => "Invalid \\escape"
  | .invalidUnicodeEscape => "Invalid \\uXXXX escape"
  | .extraData => "Extra data"
  | .byteOrderMark => "Unexpected UTF-8 BOM (decode using utf-8-sig)"
  | .tooManyDigits count => Text.tooManyDigitsMessage (some count)
  | .tooDeep => "recursion limit exceeded"

/-- The problem and where it is; a number that is too long is told without its place. -/
def SyntaxError.message (e : SyntaxError) : String :=
  match e.problem with
  | .tooManyDigits _ => e.problem.message
  | _ =>
    e.problem.message ++ ": line " ++ e.line.repr ++ " column " ++ e.column.repr ++ " (char " ++
      e.before.length.repr ++ ")"

/-- The value that a text writes down. -/
def read (limits : Limits) (s : String) : Except SyntaxError Json :=
  (Reader.document limits s.toList).mapError fun stop =>
    ⟨stop.problem, s.toList.take (s.toList.length - stop.left)⟩

end ReportPress.Json
