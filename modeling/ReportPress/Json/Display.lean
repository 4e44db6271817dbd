import ReportPress.Json
import ReportPress.Text.Numeral
import ReportPress.Text.Quoted

/-!
JSON values as they read in a document. Text stands for itself, a whole number has no fraction
however it was given, and the items of a list stand between commas. An object is shown as a
literal, in which text is quoted and the constants are capitalised; a `null` is shown as its
literal too, except where `displayText?` leaves it out. A value with a whole number beyond the limit
on digits has no text.
-/

namespace ReportPress.Json

/-- The literals of the constants. -/
def boolLiteral (b : Bool) : String := if b then "True" else "False"

mutual

/-- The value as a literal. -/
def literal? : Json → Option String
  | .null => some "None"
  | .bool b => some (boolLiteral b)
  | .int n => Text.intText? n
  | .float x => some x.text
  | .str s => some (Text.quoted s)
  | .arr items => (itemLiterals? items).map fun texts => "[" ++ ", ".intercalate texts ++ "]"
  | .obj members =>
    (memberLiterals? members).map fun texts => "\x7b" ++ ", ".intercalate texts ++ "\x7d"

/-- The literals of items. -/
def itemLiterals? : List Json → Option (List String)
  | [] => some []
  | item :: rest => do return (← literal? item) :: (← itemLiterals? rest)

/-- The literals of members, each with its key in front. -/
def memberLiterals? : List (String × Json) → Option (List String)
  | [] => some []
  | (key, value) :: rest => do
    return (Text.quoted key ++ ": " ++ (← literal? value)) :: (← memberLiterals? rest)

end

/-- A number that is not given as whole: as a whole number if it is one. -/
def floatText? (x : Binary64) : Option String :=
  match x.toInt? with
  | some n => Text.intText? n
  | none => some x.text

mutual

/-- The value as it reads in a document. -/
def display? : Json → Option String
  | .bool b => some (if b then "true" else "false")
  | .int n => Text.intText? n
  | .float x => floatText? x
  | .str s => some s
  | .arr items => (displayItems? items).map fun texts => ",".intercalate texts
  | .null => literal? .null
  | .obj members => literal? (.obj members)

/-- The items of a list as they read in a document. -/
def displayItems? : List Json → Option (List String)
  | [] => some []
  | item :: rest => do return (← display? item) :: (← displayItems? rest)

end

/-- The value as it reads in a document, `null` being left out. -/
def displayText? : Json → Option String
  | .null => some ""
  | value => display? value

theorem displayItems?_eq_mapM (items : List Json) : displayItems? items = items.mapM display? := by
  induction items with
  | nil => rfl
  | cons item rest ih => rw [displayItems?, List.mapM_cons, ih]

theorem displayText?_of_ne_null {value : Json} (h : value ≠ .null) :
    displayText? value = display? value := by
  cases value <;> first | rfl | exact absurd rfl h

end ReportPress.Json
