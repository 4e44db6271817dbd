import ReportPress.Json
import ReportPress.Text.Numeral
import ReportPress.Text.Quoted

/-!
The text of a JSON value, on one line or with every item on a line of its own, indented by two
spaces a level. Numbers are written in full or in the shortest form that reads back, and of the
characters in a string only the quote, the backslash and the controls are escaped. A value with a
whole number beyond the limit on digits is not written.
-/

namespace ReportPress.Json

/-- Where the items of a list or object stand. -/
inductive Layout
  | inline
  | indented
  deriving DecidableEq

namespace Layout

/-- What stands before the first item and after the last, the latter at one level less. -/
def gap : Layout → Nat → List Char
  | .inline, _ => []
  | .indented, depth => '\n' :: List.replicate (2 * depth) ' '

/-- What stands between two items. -/
def comma : Layout → Nat → List Char
  | .inline, _ => [',', ' ']
  | .indented, depth => ',' :: Layout.indented.gap depth

end Layout

/-- A character inside a string. -/
def stringChar (c : Char) : List Char :=
  if c = '"' then ['\\', '"']
  else if c = '\\' then ['\\', '\\']
  else if c = '\n' then ['\\', 'n']
  else if c = '\r' then ['\\', 'r']
  else if c = '\t' then ['\\', 't']
  else if c = '\x08' then ['\\', 'b']
  else if c = '\x0c' then ['\\', 'f']
  else if c.toNat < 0x20 then '\\' :: 'u' :: Text.hexDigits 4 c.toNat
  else [c]

/-- A string between its quotes. -/
def stringChars (s : String) : List Char :=
  '"' :: (s.toList.flatMap stringChar ++ ['"'])

/-- A number that is not given as whole; those that are not finite have names. -/
def floatChars : Binary64 → List Char
  | .nan => ['N', 'a', 'N']
  | .infinite negative => Binary64.sign negative ++ ['I', 'n', 'f', 'i', 'n', 'i', 't', 'y']
  | x => x.chars

mutual

/-- A value at the given depth. -/
def print (layout : Layout) (depth : Nat) : Json → List Char
  | .null => ['n', 'u', 'l', 'l']
  | .bool true => ['t', 'r', 'u', 'e']
  | .bool false => ['f', 'a', 'l', 's', 'e']
  | .int n => Text.intChars n
  | .float x => floatChars x
  | .str s => stringChars s
  | .arr [] => ['[', ']']
  | .arr (item :: rest) =>
    '[' :: (layout.gap (depth + 1) ++ (print layout (depth + 1) item ++
      (printItems layout (depth + 1) rest ++ (layout.gap depth ++ [']']))))
  | .obj [] => ['{', '}']
  | .obj ((key, value) :: rest) =>
    '{' :: (layout.gap (depth + 1) ++ (stringChars key ++ ':' :: ' ' ::
      (print layout (depth + 1) value ++ (printMembers layout (depth + 1) rest ++
        (layout.gap depth ++ ['}'])))))

/-- The items after the first, each after a comma. -/
def printItems (layout : Layout) (depth : Nat) : List Json → List Char
  | [] => []
  | item :: rest => layout.comma depth ++ (print layout depth item ++ printItems layout depth rest)

/-- The members after the first, each after a comma. -/
def printMembers (layout : Layout) (depth : Nat) : List (String × Json) → List Char
  | [] => []
  | (key, value) :: rest =>
    layout.comma depth ++ (stringChars key ++ ':' :: ' ' ::
      (print layout depth value ++ printMembers layout depth rest))

end

mutual

/-- Whether every whole number has few enough digits to be written. -/
def isWritable : Json → Bool
  | .int n => Text.isShort n
  | .arr items => areItemsWritable items
  | .obj members => areMembersWritable members
  | _ => true

/-- `isWritable` of each item. -/
def areItemsWritable : List Json → Bool
  | [] => true
  | item :: rest => isWritable item && areItemsWritable rest

/-- `isWritable` of each member's value. -/
def areMembersWritable : List (String × Json) → Bool
  | [] => true
  | (_, value) :: rest => isWritable value && areMembersWritable rest

end

/-- The value on one line. -/
def inline (value : Json) : String := String.ofList (value.print .inline 0)

/-- The value with every item on a line of its own. -/
def indented (value : Json) : String := String.ofList (value.print .indented 0)

/-- The text that is written of a value, or `none` where a whole number has too many digits. -/
def text? (value : Json) : Option String := if value.isWritable then some value.indented else none

end ReportPress.Json
