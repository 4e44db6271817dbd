/-!
Numbers in hexadecimal.
-/

namespace ReportPress.Text

/-- The code in lower-case hexadecimal, with zeros in front up to the width. -/
def hexDigits (width code : Nat) : List Char :=
  let digits := Nat.toDigits 16 code
  List.replicate (width - digits.length) '0' ++ digits

/-- The value of a hexadecimal digit. -/
def hexValue? (c : Char) : Option Nat :=
  if '0' ≤ c ∧ c ≤ '9' then some (c.toNat - '0'.toNat)
  else if 'a' ≤ c ∧ c ≤ 'f' then some (c.toNat - 'a'.toNat + 10)
  else if 'A' ≤ c ∧ c ≤ 'F' then some (c.toNat - 'A'.toNat + 10)
  else none

def isHexDigit (c : Char) : Bool := (hexValue? c).isSome

/-- The number that hexadecimal digits stand for, other characters counting as zeros. -/
def hexNumber (digits : List Char) : Nat :=
  digits.foldl (fun number c => 16 * number + (hexValue? c).getD 0) 0

end ReportPress.Text
