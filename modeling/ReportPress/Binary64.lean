import ReportPress.Rounding

/-!
IEEE 754 binary64 numbers as exact values. Every finite one is a whole multiple of the smallest
positive one, 2^-1074, so a magnitude is a count of these units; it is a number of the format when
it keeps at most 53 significant bits and stays below 2^1024. Arithmetic is exact arithmetic on
units followed by one rounding to the nearest magnitude. Main statement: `roundUnits_mod_spacing`,
rounding lands on the format's grid.
-/

namespace ReportPress

-- powers are those of natural numbers, also where powers in monoids are known
attribute [local instance (2000)] instPowNat

/-- The distance between neighbouring magnitudes of the format at `units`. -/
def spacing (units : Nat) : Nat := 2 ^ (units.log2 - 52)

theorem spacing_pos (units : Nat) : 0 < spacing units := Nat.two_pow_pos _

/-- The unit is two to the power of minus this. -/
def unitExponent : Nat := 1074

/-- The units in the number one. -/
def unitsPerOne : Nat := 2 ^ unitExponent

/-- The units in the first power of two that is too large for the format. -/
def unitsLimit : Nat := 2 ^ (unitExponent + 1024)

theorem unitsPerOne_pos : 0 < unitsPerOne := Nat.two_pow_pos _

theorem unitsLimit_pos : 0 < unitsLimit := Nat.two_pow_pos _

/-- A finite magnitude of the format, in units. -/
structure Magnitude where
  units : Nat
  units_mod_spacing : units % spacing units = 0
  units_lt : units < unitsLimit
  deriving DecidableEq

/-- `num / den` units, rounded to the grid of the format; of two neighbours that are equally near,
the one with the even last bit. -/
def roundUnits (num den : Nat) : Nat :=
  let step := spacing (num / den)
  roundHalfEven num (den * step) * step

theorem mul_two_pow_mod_spacing {m : Nat} (s : Nat) (h : m ≤ 2 ^ (53 : Nat)) :
    m * 2 ^ s % spacing (m * 2 ^ s) = 0 := by
  have hDvd : 2 ^ ((m * 2 ^ s).log2 - 52) ∣ m * 2 ^ s := by
    by_cases hm : m = 0
    · simp [hm]
    by_cases hTop : m = 2 ^ 53
    · subst hTop
      rw [← Nat.pow_add, Nat.log2_two_pow]
      exact Nat.pow_dvd_pow 2 (by omega)
    · have hPos : m * 2 ^ s ≠ 0 := Nat.mul_ne_zero hm (Nat.pos_iff_ne_zero.1 (Nat.two_pow_pos s))
      have hLt : m * 2 ^ s < 2 ^ (53 + s) := by
        rw [Nat.pow_add]
        exact Nat.mul_lt_mul_of_pos_right (by omega) (Nat.two_pow_pos s)
      have hLog := (Nat.log2_lt hPos).2 hLt
      exact Nat.dvd_trans (Nat.pow_dvd_pow 2 (by omega)) (Nat.dvd_mul_left _ _)
  exact Nat.mod_eq_zero_of_dvd hDvd

/-- Rounding keeps at most 53 bits of a quotient whose grid it uses. -/
theorem roundHalfEven_spacing_le (num den : Nat) :
    roundHalfEven num (den * spacing (num / den)) ≤ 2 ^ (53 : Nat) := by
  have hUp := roundHalfEven_le_succ num (den * spacing (num / den))
  have hLog : num / den < 2 ^ ((num / den).log2 + 1) := Nat.lt_log2_self
  have hQuot : num / (den * spacing (num / den)) < 2 ^ 53 := by
    rw [← Nat.div_div_eq_div_mul, spacing]
    refine (Nat.div_lt_iff_lt_mul (Nat.two_pow_pos _)).2 (Nat.lt_of_lt_of_le hLog ?_)
    rw [← Nat.pow_add]
    exact Nat.pow_le_pow_right (by omega) (by omega)
  omega

/-- Rounding lands on the grid of the format. -/
theorem roundUnits_mod_spacing (num den : Nat) :
    roundUnits num den % spacing (roundUnits num den) = 0 :=
  mul_two_pow_mod_spacing _ (roundHalfEven_spacing_le num den)

namespace Magnitude

def zero : Magnitude := ⟨0, rfl, unitsLimit_pos⟩

/-- The magnitude nearest to `num / den` units, or `none` where that is too large. -/
def nearest? (num den : Nat) : Option Magnitude :=
  if h : roundUnits num den < unitsLimit then
    some ⟨roundUnits num den, roundUnits_mod_spacing num den, h⟩
  else none

/-- The whole number that the magnitude is, if it is one. -/
def toNat? (m : Magnitude) : Option Nat :=
  if m.units % unitsPerOne = 0 then some (m.units / unitsPerOne) else none

end Magnitude

/-- A binary64 number. All not-a-number patterns are one value. -/
inductive Binary64
  | nan
  | infinite (negative : Bool)
  | finite (negative : Bool) (magnitude : Magnitude)
  deriving DecidableEq

namespace Binary64

instance : Inhabited Binary64 := ⟨.nan⟩

/-- The number with the sign and magnitude, infinite where the magnitude is too large. -/
def signed (negative : Bool) : Option Magnitude → Binary64
  | some m => .finite negative m
  | none => .infinite negative

/-- The number nearest to `num / den`. -/
def ofRatio (negative : Bool) (num den : Nat) : Binary64 :=
  signed negative (Magnitude.nearest? (num * unitsPerOne) den)

/-- The number nearest to a quotient of natural numbers, or `none` beyond the finite ones. -/
def ofQuotient? (num den : Nat) : Option Binary64 :=
  (Magnitude.nearest? (num * unitsPerOne) den).map (.finite false)

/-- The number nearest to a whole number, or `none` beyond the finite ones. -/
def ofInt? (n : Int) : Option Binary64 :=
  (Magnitude.nearest? (n.natAbs * unitsPerOne) 1).map (.finite (n < 0))

def zero : Binary64 := .finite false .zero

/-- The product of exact values, rounded once. -/
def mul : Binary64 → Binary64 → Binary64
  | .nan, _ | _, .nan => .nan
  | .infinite a, .infinite b => .infinite (a != b)
  | .infinite a, .finite b m | .finite a m, .infinite b =>
    if m.units = 0 then .nan else .infinite (a != b)
  | .finite a m, .finite b n =>
    signed (a != b) (Magnitude.nearest? (m.units * n.units) unitsPerOne)

/-- The units of a finite number with their sign. -/
def signedUnits (negative : Bool) (m : Magnitude) : Int :=
  if negative then -m.units else m.units

/-- The sum of exact values, rounded once; a sum of zero is negative only if both terms are. -/
def add : Binary64 → Binary64 → Binary64
  | .nan, _ | _, .nan => .nan
  | .infinite a, .infinite b => if a = b then .infinite a else .nan
  | .infinite a, .finite _ _ | .finite _ _, .infinite a => .infinite a
  | .finite a m, .finite b n =>
    let sum := signedUnits a m + signedUnits b n
    if sum = 0 then .finite (a && b) .zero
    else signed (sum < 0) (Magnitude.nearest? sum.natAbs 1)

instance : Mul Binary64 := ⟨mul⟩

instance : Add Binary64 := ⟨add⟩

/-- At least zero; the negative zero counts, a not-a-number does not. -/
def isNonneg : Binary64 → Bool
  | .nan => false
  | .infinite negative => !negative
  | .finite negative m => !negative || m.units == 0

/-- Either zero. -/
def isZero : Binary64 → Bool
  | .finite _ m => m.units == 0
  | _ => false

/-- Neither infinite nor a not-a-number. -/
def isFinite : Binary64 → Bool
  | .finite _ _ => true
  | _ => false

/-- The whole number that this is, if it is one; both zeros are 0. -/
def toInt? : Binary64 → Option Int
  | .finite negative m => m.toNat?.map fun n => if negative then -(n : Int) else n
  | _ => none

end Binary64

end ReportPress
