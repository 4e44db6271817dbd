import ReportPress.Binary64.Decimal
import ReportPress.Proofs.Binary64.Nearest
import ReportPress.Proofs.Text.Numeral

/-!
Decimals as quotients. Within the bounds that keep the powers of ten small, a decimal is read as the
number nearest to its quotient. Main statement: `toBinary64_eq`.
-/

namespace ReportPress

namespace Decimal

/-- The numerator of a decimal. -/
def num (d : Decimal) : Nat :=
  match d.exponent with
  | .ofNat e => d.digits * 10 ^ e
  | .negSucc _ => d.digits

/-- The denominator of a decimal. -/
def den (d : Decimal) : Nat :=
  match d.exponent with
  | .ofNat _ => 1
  | .negSucc e => 10 ^ (e + 1)

/-- The place of the decimal point, counted from the first digit. -/
def point (d : Decimal) : Int := d.exponent + d.digits.repr.length

theorem num_ofNat (digits e : Nat) : num ⟨digits, .ofNat e⟩ = digits * 10 ^ e := rfl

theorem den_ofNat (digits e : Nat) : den ⟨digits, .ofNat e⟩ = 1 := rfl

theorem num_negSucc (digits e : Nat) : num ⟨digits, .negSucc e⟩ = digits := rfl

theorem den_negSucc (digits e : Nat) : den ⟨digits, .negSucc e⟩ = 10 ^ (e + 1) := rfl

theorem num_eq (d : Decimal) : d.num = d.digits * 10 ^ d.exponent.toNat := by
  obtain ⟨digits, exponent⟩ := d
  cases exponent with
  | ofNat e => rfl
  | negSucc e => exact (Nat.mul_one digits).symm

theorem den_eq (d : Decimal) : d.den = 10 ^ (-d.exponent).toNat := by
  obtain ⟨digits, exponent⟩ := d
  cases exponent with
  | ofNat e =>
    have hNone : (-(Int.ofNat e)).toNat = 0 := by
      rw [Int.ofNat_eq_natCast]
      omega
    rw [den_ofNat, hNone, Nat.pow_zero]
  | negSucc e => rfl

theorem num_zero (exponent : Int) : num ⟨0, exponent⟩ = 0 := by
  rw [num_eq, Nat.zero_mul]

theorem den_pos (d : Decimal) : 0 < d.den := by
  rw [den_eq]
  exact Nat.pow_pos (by omega)

section

variable {n : Nat}

theorem lt_ten_pow_length (n : Nat) : n < 10 ^ n.repr.length := by
  have hLength := List.length_pos_iff.2 (Text.repr_ne_nil n)
  rw [Text.length_repr_toList] at hLength
  exact (Nat.length_repr_le_iff hLength).1 (Nat.le_refl _)

theorem ten_pow_length_le (h : n ≠ 0) : 10 ^ (n.repr.length - 1) ≤ n := by
  rcases Nat.eq_zero_or_pos (n.repr.length - 1) with hOne | hMore
  · rw [hOne]
    exact Nat.pos_of_ne_zero h
  · by_contra hn
    have := (Nat.length_repr_le_iff hMore).2 (Nat.lt_of_not_le hn)
    omega

end

/-- The place of the point is bounded by powers of ten around the quotient. -/
theorem point_le_of_num_lt {d : Decimal} {k : Nat} (hDigits : d.digits ≠ 0)
    (h : d.num < 10 ^ k * d.den) : d.point ≤ k := by
  rw [num_eq, den_eq, ← Nat.pow_add] at h
  have hFirst := Nat.mul_le_mul_right (10 ^ d.exponent.toNat) (ten_pow_length_le hDigits)
  rw [← Nat.pow_add] at hFirst
  have hLt := Nat.lt_of_le_of_lt hFirst h
  rw [Nat.pow_lt_pow_iff_right (by omega)] at hLt
  rw [point]
  omega

theorem neg_le_point_of_den_le {d : Decimal} {k : Nat} (h : d.den ≤ d.num * 10 ^ k) :
    -(k : Int) ≤ d.point := by
  rw [num_eq, den_eq, Nat.mul_assoc, ← Nat.pow_add] at h
  have hPos : 0 < 10 ^ (d.exponent.toNat + k) := Nat.pow_pos (by omega)
  have hLast := Nat.mul_lt_mul_of_pos_right (lt_ten_pow_length d.digits) hPos
  rw [← Nat.pow_add] at hLast
  have hLt := Nat.lt_of_le_of_lt h hLast
  rw [Nat.pow_lt_pow_iff_right (by omega)] at hLt
  rw [point]
  omega

/-- A decimal of moderate size is read as the number nearest to its quotient. -/
theorem toBinary64_eq (negative : Bool) {d : Decimal} (hDigits : d.digits ≠ 0)
    (hLow : -400 ≤ d.point) (hHigh : d.point ≤ 400) : d.toBinary64 negative =
      Binary64.signed negative (Magnitude.nearest? (d.num * unitsPerOne) d.den) := by
  have hNonzero : ¬ (d.digits = 0 ∨ d.exponent + (d.digits.repr.length : Int) < -400) := by
    rw [point] at hLow
    omega
  have hSmall : ¬ 400 < d.exponent + (d.digits.repr.length : Int) := by
    rw [point] at hHigh
    omega
  obtain ⟨digits, exponent⟩ := d
  rw [toBinary64]
  simp only [hNonzero, hSmall, if_false]
  cases exponent with
  | ofNat e => simp only [Binary64.ofRatio, num, den]
  | negSucc e => simp only [Binary64.ofRatio, num, den]

end Decimal

end ReportPress
