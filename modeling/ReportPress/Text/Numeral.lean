import ReportPress.Binary64.Decimal
import ReportPress.Text.Digit

/-!
Numerals in text. A whole number is written in decimal digits, and none is that has more digits than
the limit. A record may give a number as text: its whole numbers allow a sign, leading zeros,
underscores between digits and a fraction of zeros, its other numbers the usual decimal forms and
the names of the infinities. Figures in documents are runs of digits of any script.
-/

namespace ReportPress.Text

/-- The most digits of a whole number that is read from text or written as text. -/
def digitLimit : Nat := 4300

/-- The digits of a whole number, behind a minus sign if it is negative. -/
def intChars (n : Int) : List Char :=
  if n < 0 then '-' :: n.natAbs.repr.toList else n.natAbs.repr.toList

/-- Whether a whole number has few enough digits to be written. -/
def isShort (n : Int) : Bool := decide (n.natAbs.repr.length ≤ digitLimit)

/-- The text of a whole number, or `none` where it has too many digits. -/
def intText? (n : Int) : Option String :=
  if isShort n then some (String.ofList (intChars n)) else none

/-- What is told of a whole number that is beyond the limit; the number of its digits is known where
it was to be read. -/
def tooManyDigitsMessage (count? : Option Nat) : String :=
  "Exceeds the limit (" ++ digitLimit.repr ++ " digits) for integer string conversion" ++
    (match count? with
      | some count => ": value has " ++ count.repr ++ " digits"
      | none => "") ++ "; use sys.set_int_max_str_digits() to increase the limit"

/-- What a text says about a whole number. -/
inductive WholeNumeral
  | value (n : Int)
  | tooLong
  | unreadable

/-- Zeros at the front dropped, with the underscores among them, down to the last one where no
digit or sign follows; `none` for text that does not start with a digit. -/
def dropLeadingZeros (cs : List Char) : Option (List Char) :=
  match cs with
  | '0' :: _ =>
    let isFiller := fun c => c == '0' || c == '_'
    let last := (cs.takeWhile isFiller).getLast?.toList
    match cs.dropWhile isFiller with
    | [] => some last
    | '.' :: rest => some (last ++ '.' :: rest)
    | c :: rest => if c == '-' || c.isDigit then some (c :: rest) else none
  | c :: _ => if c.isDigit then some cs else none
  | [] => none

/-- A point and zeros at the end dropped. -/
def dropZeroFraction (cs : List Char) : List Char :=
  let fraction := (cs.dropWhile (· != '.')).drop 1
  if !fraction.isEmpty && fraction.all (· == '0') then cs.takeWhile (· != '.') else cs

/-- Underscores dropped; `none` where one stands at an end or beside another. -/
def dropUnderscores (cs : List Char) : Option (List Char) :=
  let doubled := (cs.zip cs.tail).any fun pair => pair.1 == '_' && pair.2 == '_'
  if cs.head? == some '_' || cs.getLast? == some '_' || doubled then none
  else some (cs.filter (· != '_'))

/-- Whether a text starts with more digits than are read; a minus sign may stand in front of them,
but no zero. -/
def startsTooLong (cs : List Char) : Bool :=
  let digits := (if cs.head? = some '-' then cs.drop 1 else cs).takeWhile Char.isDigit
  digits.head? != some '0' && digitLimit < digits.length

/-- The whole number of a sign and digits that start with a zero only if they are that one
digit. -/
def plainNumeral (negative : Bool) (cs : List Char) : WholeNumeral :=
  let isPlain := cs.all Char.isDigit && cs.head?.any (· != '0') && decide (cs.length ≤ digitLimit)
  if cs = ['0'] ∨ isPlain then
    let size : Int := Nat.ofDigitChars 10 cs 0
    .value (if negative then -size else size)
  else .unreadable

/-- A whole number in a record's text. Its sign comes first or, if it is a minus sign, behind
leading zeros. Only a text that starts with its digits is told to be too long. -/
def wholeNumeral (s : String) : WholeNumeral :=
  if startsTooLong s.toList then .tooLong else
  let (negative, unsigned?) : Bool × Option (List Char) :=
    match trim isWhiteSpace s.toList with
    | '+' :: '-' :: _ => (false, none)
    | '+' :: rest => (false, some rest)
    | '-' :: rest => (true, some rest)
    | cs => (false, some cs)
  match unsigned?.bind dropLeadingZeros with
  | none => .unreadable
  | some cs =>
    let plain := dropZeroFraction cs
    match negative, (dropUnderscores plain).getD plain with
    | false, '-' :: digits => plainNumeral true digits
    | negative, digits => plainNumeral negative digits

/-- An exponent `e` or `E`, a sign and digits, or nothing. -/
def exponentPart? (cs : List Char) : Option Int :=
  match cs with
  | [] => some 0
  | c :: rest =>
    if c == 'e' || c == 'E' then
      let (negative, digits) : Bool × List Char :=
        match rest with
        | '-' :: digits => (true, digits)
        | '+' :: digits => (false, digits)
        | digits => (false, digits)
      if digits.isEmpty || !digits.all Char.isDigit then none
      else
        let size : Int := Nat.ofDigitChars 10 digits 0
        some (if negative then -size else size)
    else none

/-- Digits with an optional point and exponent, at least one digit beside the point. -/
def unsignedDecimal? (cs : List Char) : Option Decimal :=
  let whole := cs.takeWhile Char.isDigit
  let (fraction, rest) : List Char × List Char :=
    match cs.dropWhile Char.isDigit with
    | '.' :: rest => (rest.takeWhile Char.isDigit, rest.dropWhile Char.isDigit)
    | rest => ([], rest)
  if whole.isEmpty && fraction.isEmpty then none
  else (exponentPart? rest).map fun exponent =>
    ⟨Nat.ofDigitChars 10 (whole ++ fraction) 0, exponent - fraction.length⟩

/-- A number with an optional sign, or the name of an infinity or of the not-a-number in any
case. -/
def signedNumber? (cs : List Char) : Option Binary64 :=
  let (negative, body) : Bool × List Char :=
    match cs with
    | '-' :: body => (true, body)
    | '+' :: body => (false, body)
    | body => (false, body)
  let name := String.ofList (body.map Char.toLower)
  if name == "inf" || name == "infinity" then some (.infinite negative)
  else if name == "nan" then some .nan
  else (unsignedDecimal? body).map (·.toBinary64 negative)

/-- A number in a record's text: white space may stand around it, or underscores between its
characters, but not both. -/
def number? (s : String) : Option Binary64 :=
  (signedNumber? (trim isWhiteSpace s.toList)).or
    ((dropUnderscores s.toList).bind signedNumber?)

/-- The value of digits of any script, read in base ten; other characters count as nothing. -/
def figureValue (cs : List Char) : Nat :=
  Nat.ofDigitChars 10 ((cs.filterMap digitValue?).map Nat.digitChar) 0

/-- The digits with a comma before each group of three that has digits in front of it. -/
def groupThousands (digits : List Char) : List Char :=
  if digits.length ≤ 3 then digits
  else
    groupThousands (digits.take (digits.length - 3)) ++ ',' :: digits.drop (digits.length - 3)
termination_by digits.length
decreasing_by simp; omega

/-- A count with its thousands apart. -/
def grouped (n : Nat) : String := String.ofList (groupThousands n.repr.toList)

theorem groupThousands_of_length_le {digits : List Char} (h : digits.length ≤ 3) :
    groupThousands digits = digits := by
  rw [groupThousands, if_pos h]

theorem groupThousands_append {digits last : List Char} (hDigits : digits ≠ [])
    (hLast : last.length = 3) :
    groupThousands (digits ++ last) = groupThousands digits ++ ',' :: last := by
  have hPos := List.length_pos_iff.2 hDigits
  rw [groupThousands, if_neg (by simp; omega)]
  simp [hLast]

end ReportPress.Text
