import ReportPress.Json.Display
import ReportPress.Record.Check
import ReportPress.Report.Style
import ReportPress.Text.Line

/-!
What is reported of the faults of a record: how many there are, and then of each its place, what was
wrong there, and the value that was found, cut in the middle if it is long. Of JSON text that is
malformed the text itself is the value. What the reader says of such a text is not reported here,
and neither is where a cause is documented.
-/

namespace ReportPress

/-- The texts in quotes, the last after an "or". -/
def alternatives (texts : List String) : String :=
  match texts.reverse with
  | [] => ""
  | [only] => "'" ++ only ++ "'"
  | last :: others =>
    ", ".intercalate (others.reverse.map fun text => "'" ++ text ++ "'") ++ " or '" ++ last ++ "'"

namespace Cause

/-- The name under which a cause is reported. -/
def code : Cause → String
  | malformed => "json_invalid"
  | missing => "missing"
  | notObject _ => "model_type"
  | notList => "list_type"
  | notText => "string_type"
  | unknownStyle => "enum"
  | notWhole => "int_type"
  | unreadableWhole => "int_parsing"
  | wholeTooLong => "int_parsing_size"
  | fractional => "int_from_float"
  | notFinite => "finite_number"
  | notNumber => "float_type"
  | unreadableNumber => "float_parsing"
  | belowZero => "greater_than_equal"

/-- What is reported of a cause. -/
def message (source : Source) : Cause → String
  | malformed => "Invalid JSON"
  | missing => "Field required"
  | notObject model =>
    match source with
    | .data => "Input should be a valid dictionary or instance of " ++ model
    | .text => "Input should be an object"
  | notList =>
    match source with
    | .data => "Input should be a valid list"
    | .text => "Input should be a valid array"
  | notText => "Input should be a valid string"
  | unknownStyle => "Input should be " ++ alternatives (ParagraphStyle.all.map ParagraphStyle.tag)
  | notWhole => "Input should be a valid integer"
  | unreadableWhole => "Input should be a valid integer, unable to parse string as an integer"
  | wholeTooLong => "Unable to parse input string as an integer, exceeded maximum size"
  | fractional => "Input should be a valid integer, got a number with a fractional part"
  | notFinite => "Input should be a finite number"
  | notNumber => "Input should be a valid number"
  | unreadableNumber => "Input should be a valid number, unable to parse string as a number"
  | belowZero => "Input should be greater than or equal to 0"

end Cause

/-- The name of a step. -/
def Step.text : Step → String
  | .key name => name
  | .index position => position.repr

/-- The name of the kind of a value. -/
def Json.kindName : Json → String
  | .null => "NoneType"
  | .bool _ => "bool"
  | .int _ => "int"
  | .float _ => "float"
  | .str _ => "str"
  | .arr _ => "list"
  | .obj _ => "dict"

/-- The first characters of a text that take up no more bytes than there is room for. -/
def Text.front (room : Nat) : List Char → List Char
  | [] => []
  | c :: rest => if c.utf8Size ≤ room then c :: front (room - c.utf8Size) rest else []

/-- A text of more than 50 bytes with the middle left out. -/
def Text.shortened (s : String) : String :=
  if s.utf8ByteSize ≤ 50 then s
  else
    String.ofList (front 25 s.toList ++ ['.', '.', '.'] ++ (front 24 s.toList.reverse).reverse)

/-- The value that has the fault, as it is reported. -/
def Fault.inputText (fault : Fault) : String :=
  Text.shortened (fault.input.literal?.getD ("<unprintable " ++ fault.input.kindName ++ " object>"))

/-- What is reported of a fault, in the line below its place. -/
def Fault.report (source : Source) (fault : Fault) : String :=
  "  " ++ fault.cause.message source ++ " [type=" ++ fault.cause.code ++ ", input_value=" ++
    fault.inputText ++ ", input_type=" ++ fault.input.kindName ++ "]"

/-- The lines that are reported of a fault; a fault of the whole record has no place. -/
def Fault.lines (source : Source) (fault : Fault) : List String :=
  if fault.place.isEmpty then [fault.report source]
  else [".".intercalate (fault.place.map Step.text), fault.report source]

/-- The count of the faults. -/
def Rejection.summary (r : Rejection) : String :=
  let count := r.faults.length
  count.repr ++ (if count = 1 then " validation error for " else " validation errors for ") ++
    r.model

/-- What is reported of a refusal: the count of the faults and then each of them. -/
def Rejection.message (r : Rejection) : String :=
  Text.joinLines (r.summary :: r.faults.flatMap (Fault.lines r.source))

end ReportPress
