import ReportPress.Text.LooseText
import ReportPress.Usage.Pricing

/-!
The statistics table of a document. It is written with the thousands of each count apart and the
cost in US dollars to four places, and the figures of a run are recovered from it: each figure is
the first one that follows its label anywhere in the text, and a figure without one is zero.
-/

namespace ReportPress

/-- A cost in US dollars. -/
inductive Cost
  | whole (amount : Int)
  | exact (amount : Binary64)
  deriving DecidableEq

/-- The number nearest to a cost, or `none` beyond the finite ones. -/
def Cost.nearest? : Cost → Option Binary64
  | .whole amount => Binary64.ofInt? amount
  | .exact amount => some amount

namespace Statistics

/-- Why figures cannot be written or recovered. -/
inductive FigureError
  | noDigits
  | tooManyDigits (count? : Option Nat)
  | costTooLarge
  deriving DecidableEq

def FigureError.message : FigureError → String
  | .noDigits => "invalid literal for int() with base 10: ''"
  | .tooManyDigits count? => Text.tooManyDigitsMessage count?
  | .costTooLarge => "int too large to convert to float"

/-- The places of a cost. -/
def costPlaces : Nat := 4

/-- The text of a cost. -/
def costText (cost : Cost) : Except FigureError String :=
  match cost.nearest? with
  | some amount => .ok (amount.fixed costPlaces)
  | none => .error .costTooLarge

/-- The text of a count. -/
def countText (count : Nat) : Except FigureError String :=
  if Text.isShort count then .ok (Text.grouped count) else .error (.tooManyDigits none)

def inputLabel : String := "Input Tokens | "
def outputLabel : String := "Output Tokens | "
def totalLabel : String := "Total Tokens | "
def costLabel : String := "Estimated Cost (USD)** | **$"

/-- The lines in front of the row of the schema. -/
def headingLines : List String :=
  ["## 📊 Processing Statistics", "", "| Metric | Value |", "|--------|-------|"]

/-- The row of the schema. -/
def schemaLine (schemaName : LooseText) : LooseText :=
  .ofString "| Schema | " ++ schemaName ++ .ofString " |"

/-- The lines behind the row of the schema. -/
def figureLines (input output total amount : String) : List String :=
  ["| " ++ inputLabel ++ input ++ " |", "| " ++ outputLabel ++ output ++ " |",
    "| " ++ totalLabel ++ total ++ " |", "| **" ++ costLabel ++ amount ++ "** |", "", "---", ""]

/-- The lines of the statistics table. -/
def lines (schemaName : LooseText) (usage : TokenUsage) (cost : Cost) :
    Except FigureError (List LooseText) := do
  let input ← countText usage.input
  let output ← countText usage.output
  let total ← countText usage.total
  let amount ← costText cost
  return headingLines.map .ofString ++ schemaLine schemaName ::
    (figureLines input output total amount).map .ofString

/-- The characters of the class that follow the first label which any of them follows. -/
def figure? (label : List Char) (isPart : Char → Bool) : List Char → Option (List Char)
  | [] => none
  | c :: rest =>
    let found := if label.isPrefixOf (c :: rest) then
      ((c :: rest).drop label.length).takeWhile isPart else []
    if found.isEmpty then figure? label isPart rest else some found

/-- The characters of a count: digits of any script, and commas. -/
def isCountPart (c : Char) : Bool := c == ',' || Text.isDigit c

/-- The characters of a cost: digits of any script, and points. -/
def isCostPart (c : Char) : Bool := c == '.' || Text.isDigit c

/-- The value of the characters of a count. -/
def countOf (part : List Char) : Except FigureError Nat :=
  let digits := part.filter (· != ',')
  if digits.isEmpty then .error .noDigits
  else if Text.digitLimit < digits.length then .error (.tooManyDigits (some digits.length))
  else .ok (Text.figureValue digits)

/-- The value of the characters of a cost, zero if they are no number. -/
def costOf (part : List Char) : Binary64 :=
  let plain := part.map fun c =>
    match Text.digitValue? c with
    | some d => d.digitChar
    | none => c
  ((Text.unsignedDecimal? plain).map (·.toBinary64 false)).getD .zero

/-- The count after a label, zero without one. -/
def count (label : String) (document : List Char) : Except FigureError Nat :=
  match figure? label.toList isCountPart document with
  | some part => countOf part
  | none => .ok 0

/-- The token counts and the cost in a document. -/
def recover (document : String) : Except FigureError (TokenUsage × Binary64) := do
  let cs := document.toList
  let input ← count inputLabel cs
  let output ← count outputLabel cs
  let total ← count totalLabel cs
  let cost := ((figure? costLabel.toList isCostPart cs).map costOf).getD .zero
  return (⟨input, output, total⟩, cost)

end Statistics

end ReportPress
