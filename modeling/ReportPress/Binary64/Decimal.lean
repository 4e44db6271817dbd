import ReportPress.Binary64
import ReportPress.Text.Blank

/-!
Decimal text of binary64 numbers: reading rounds the exact decimal value once, the shortest form has
the fewest digits that read back as the same number, and the fixed form rounds the exact value to a
number of places, halves to the even neighbour.
-/

namespace ReportPress

-- powers are those of natural numbers, also where powers in monoids are known
attribute [local instance (2000)] instPowNat

/-- The value `digits * 10 ^ exponent`. -/
structure Decimal where
  digits : Nat
  exponent : Int
  deriving DecidableEq

/-- The binary64 number nearest to a decimal. The first two bounds only keep the powers of ten
small: a value of 10^400 or more is beyond the finite numbers, and one below 10^-400 rounds to
zero. -/
def Decimal.toBinary64 (negative : Bool) (d : Decimal) : Binary64 :=
  let point := d.exponent + d.digits.repr.length
  if d.digits = 0 ∨ point < -400 then .finite negative .zero
  else if 400 < point then .infinite negative
  else
    match d.exponent with
    | .ofNat e => .ofRatio negative (d.digits * 10 ^ e) 1
    | .negSucc e => .ofRatio negative d.digits (10 ^ (e + 1))

namespace Magnitude

/-- The exponent of the scale. -/
def scalePlaces : Nat := 400

/-- A power of ten at whose scale every positive magnitude is greater than one. -/
def decimalScale : Nat := 10 ^ scalePlaces

/-- The decimal exponent of the first significant digit of a positive magnitude. -/
def decimalExponent (m : Magnitude) : Int :=
  ((m.units * decimalScale / unitsPerOne).repr.length : Int) - 401

/-- The magnitude in multiples of `10 ^ power`, as numerator and denominator. -/
def inPowersOfTen (m : Magnitude) : Int → Nat × Nat
  | .ofNat power => (m.units, unitsPerOne * 10 ^ power)
  | .negSucc power => (m.units * 10 ^ (power + 1), unitsPerOne)

/-- Whether `d` multiples of `10 ^ power` round to the magnitude: they lie between the midpoints to
its two neighbours, the midpoints themselves counting when the last bit is even. All is measured
in quarters of a unit, and below a power of two the lower neighbour is only half as far. -/
def readsBack (m : Magnitude) (power : Int) (d : Nat) : Bool :=
  let step := spacing m.units
  let below := if m.units = 2 ^ (52 : Nat) * step ∧ 1 < step then step else 2 * step
  let num := match power with
    | .ofNat p => 4 * d * 10 ^ p * unitsPerOne
    | .negSucc _ => 4 * d * unitsPerOne
  let den := match power with
    | .ofNat _ => 1
    | .negSucc p => 10 ^ (p + 1)
  let low := (4 * m.units - below) * den
  let high := (4 * m.units + 2 * step) * den
  if m.units / step % 2 = 0 then low ≤ num && num ≤ high else low < num && num < high

/-- A number of multiples of `10 ^ power` that reads back as the magnitude, which is `num / den` of
them: the nearest one if it does, otherwise its neighbour on the other side. -/
def near? (m : Magnitude) (power : Int) (num den : Nat) : Option Decimal :=
  let nearest := roundHalfEven num den
  let other := if nearest * den ≤ num then nearest + 1 else nearest - 1
  if m.readsBack power nearest then some ⟨nearest, power⟩
  else if m.readsBack power other then some ⟨other, power⟩
  else none

/-- A decimal of `count` digits that reads back as the magnitude. -/
def withDigits? (m : Magnitude) (count : Nat) : Option Decimal :=
  let power := m.decimalExponent - count + 1
  let quotient := m.inPowersOfTen power
  m.near? power quotient.1 quotient.2

/-- The decimal with the fewest digits that reads back as the positive magnitude; 17 always do. -/
def shortest (m : Magnitude) : Decimal :=
  ((List.range 17).findSome? fun n => m.withDigits? (n + 1)).getD ⟨0, 0⟩

/-- The magnitude to `places` decimal places, as a count of the last place. -/
def inPlaces (m : Magnitude) (places : Nat) : Nat :=
  roundHalfEven (m.units * 10 ^ places) unitsPerOne

end Magnitude

/-- The digits with the decimal point after the first `point` of them; exponents of the first digit
from -4 to 15 are written positionally, with a digit on both sides of the point, and the others
after an `e` with a sign and at least two digits. -/
def Decimal.layout (digits : List Char) (point : Int) : List Char :=
  if -4 < point ∧ point ≤ 16 then
    if point ≤ 0 then
      '0' :: '.' :: (List.replicate (-point).toNat '0' ++ digits)
    else if digits.length ≤ point.toNat then
      digits ++ List.replicate (point.toNat - digits.length) '0' ++ ['.', '0']
    else
      digits.take point.toNat ++ '.' :: digits.drop point.toNat
  else
    let exponent := (point - 1).natAbs
    let mark := if point - 1 < 0 then ['e', '-'] else ['e', '+']
    let fraction := if digits.length ≤ 1 then [] else '.' :: digits.drop 1
    digits.take 1 ++ fraction ++ mark ++ (if exponent < 10 then ['0'] else []) ++
      exponent.repr.toList

/-- The written form of a decimal, without zeros at the end of its digits. -/
def Decimal.chars (d : Decimal) : List Char :=
  let digits := d.digits.repr.toList
  Decimal.layout (Text.trimEnd (· == '0') digits) (digits.length + d.exponent)

namespace Binary64

/-- A minus sign, if negative. -/
def sign (negative : Bool) : List Char := if negative then ['-'] else []

/-- The shortest decimal form that reads back as the number. -/
def chars : Binary64 → List Char
  | .nan => ['n', 'a', 'n']
  | .infinite negative => sign negative ++ ['i', 'n', 'f']
  | .finite negative m =>
    sign negative ++ if m.units = 0 then ['0', '.', '0'] else m.shortest.chars

/-- The shortest decimal form as text. -/
def text (x : Binary64) : String := String.ofList x.chars

/-- A count of `places` decimal places, with the point in its place. -/
def placeChars (places count : Nat) : List Char :=
  let fraction := (count % 10 ^ places).repr.toList
  (count / 10 ^ places).repr.toList ++
    '.' :: (List.replicate (places - fraction.length) '0' ++ fraction)

/-- The decimal form with exactly `places` places, `places` being positive. -/
def fixed (places : Nat) : Binary64 → String
  | .finite negative m =>
    String.ofList (sign negative ++ placeChars places (m.inPlaces places))
  | x => x.text

end Binary64

end ReportPress
