import ReportPress.Binary64.Decimal
import ReportPress.Proofs.Binary64.Nearest

/-!
Numbers written to four decimal places and read again. Where the grid of the format is finer than
the last place, the nearest number is so near to the text that it is written in the same way; where
it is coarser, the nearest number is the one that was written. Main statement:
`inPlaces_nearest?`, writing, reading and writing again is writing once.
-/

namespace ReportPress

/-- The widest spacing that is finer than four places. -/
def fineSpacing : Nat := 2 ^ (unitExponent - 14)

theorem fineSpacing_eq : ∃ s, unitExponent = s + 14 ∧ fineSpacing = 2 ^ s :=
  ⟨unitExponent - 14, by rw [unitExponent], rfl⟩

theorem fineSpacing_pos : 0 < fineSpacing := Nat.two_pow_pos _

theorem unitsPerOne_eq : unitsPerOne = 2 ^ 14 * fineSpacing := by
  obtain ⟨s, hUnit, hFine⟩ := fineSpacing_eq
  rw [unitsPerOne, hFine, hUnit, Nat.pow_add, Nat.mul_comm]

theorem lt_unitsLimit {units : Nat} (h : units ≤ 2 ^ 54 * fineSpacing) : units < unitsLimit := by
  obtain ⟨s, hUnit, hFine⟩ := fineSpacing_eq
  rw [hFine, ← Nat.pow_add] at h
  refine Nat.lt_of_le_of_lt h (Nat.pow_lt_pow_right (by omega) ?_)
  rw [hUnit]
  omega

theorem two_mul_two_pow_le {n k : Nat} (h : n + 1 ≤ 3 * k) : 2 * 2 ^ n ≤ 10 ^ k :=
  calc
    2 * 2 ^ n = 2 ^ (n + 1) := (Nat.pow_succ' ..).symm
    _ ≤ 2 ^ (3 * k) := Nat.pow_le_pow_right (by omega) h
    _ = (2 ^ 3) ^ k := Nat.pow_mul ..
    _ ≤ 10 ^ k := Nat.pow_le_pow_left (by omega) k

theorem two_mul_two_pow_add_le {n e k : Nat} (h : e + 1 ≤ 3 * k) :
    2 * 2 ^ (n + e) ≤ 10 ^ k * 2 ^ n := by
  rw [Nat.pow_add, Nat.mul_left_comm, Nat.mul_comm]
  exact Nat.mul_le_mul_right _ (two_mul_two_pow_le h)

theorem two_mul_unitsLimit_le {k : Nat} (h : 342 ≤ k) :
    2 * unitsLimit ≤ 10 ^ k * unitsPerOne := by
  delta unitsLimit unitsPerOne
  generalize unitExponent = n
  exact two_mul_two_pow_add_le (by omega)

theorem spacing_fineSpacing : spacing (2 ^ 52 * fineSpacing) = fineSpacing := by
  obtain ⟨s, -, hFine⟩ := fineSpacing_eq
  rw [hFine, spacing_two_pow_mul]

/-- A spacing is finer than four places or at least twice the widest that is. -/
theorem spacing_le_or_le (units : Nat) : spacing units ≤ fineSpacing ∨
    2 * fineSpacing ≤ spacing units ∧ fineSpacing ∣ spacing units := by
  obtain ⟨s, -, hFine⟩ := fineSpacing_eq
  rw [hFine, spacing]
  rcases Nat.lt_or_ge s (units.log2 - 52) with hLarge | hSmall
  · refine .inr ⟨?_, Nat.pow_dvd_pow 2 (by omega)⟩
    rw [Nat.mul_comm, ← Nat.pow_succ]
    exact Nat.pow_le_pow_right (by omega) (by omega)
  · exact .inl (Nat.pow_le_pow_right (by omega) hSmall)

section

variable {units count : Nat} (hCount : count = roundHalfEven (units * 10 ^ 4) unitsPerOne)
include hCount

/-- A number on a coarse grid is the one nearest to its text. -/
theorem roundUnits_of_coarse (hGrid : units % spacing units = 0)
    (h : 2 * fineSpacing ≤ spacing units) (hDvd : fineSpacing ∣ spacing units) :
    roundUnits (count * unitsPerOne) (10 ^ 4) = units := by
  by_cases hExact : count * unitsPerOne = units * 10 ^ 4
  · rw [hExact, roundUnits_mul hGrid (by omega)]
  obtain ⟨hLower, hUpper⟩ := roundHalfEven_near (units * 10 ^ 4) unitsPerOne_pos
  rw [← hCount] at hUpper hLower
  -- the power of two at the lower end of a grid has no places, so that its text is exact
  have hStep : stepBelow units = 2 * spacing units := by
    rw [stepBelow, if_neg]
    rintro ⟨hPower, -⟩
    obtain ⟨c, hc⟩ := hDvd
    refine hExact ?_
    have hMul : units * 10 ^ 4 = 2 ^ 38 * c * 10 ^ 4 * unitsPerOne := by
      rw [hPower, hc, unitsPerOne_eq]
      ring
    rw [hCount, hMul, roundHalfEven_mul _ unitsPerOne_pos]
  have hLarge := @spacing_le_units units (by have := fineSpacing_pos; omega)
  have hUnit := unitsPerOne_eq
  have hBelow : (4 * units - 2 * spacing units) * 10 ^ 4 =
      4 * (units * 10 ^ 4) - 2 * spacing units * 10 ^ 4 := by
    rw [Nat.sub_mul, Nat.mul_assoc]
  refine roundUnits_of_inRange hGrid (by omega) ?_
  rw [InRange, hStep]
  refine ⟨?_, ?_, fun _ => ⟨?_, ?_⟩⟩
  all_goals omega

/-- A number on a fine grid has a text of few digits. -/
theorem count_le_of_fine (h : spacing units ≤ fineSpacing) : count ≤ 2 ^ 39 * 10 ^ 4 := by
  obtain ⟨-, hUpper⟩ := roundHalfEven_near (units * 10 ^ 4) unitsPerOne_pos
  rw [← hCount] at hUpper
  have hUnits := units_lt_spacing units
  have hUnit := unitsPerOne_eq
  by_contra hn
  have := Nat.mul_le_mul_right unitsPerOne (show 2 ^ 39 * 10 ^ 4 + 1 ≤ count by omega)
  omega

end

section

variable {count : Nat}

/-- The number nearest to a text of few digits is on a grid that is fine. -/
theorem spacing_le_of_count_lt (h : count < 2 ^ 39 * 10 ^ 4) :
    spacing (count * unitsPerOne / 10 ^ 4) ≤ fineSpacing := by
  have hLt : count * unitsPerOne / 10 ^ 4 < 2 ^ 53 * fineSpacing := by
    rw [Nat.div_lt_iff_lt_mul (by omega), unitsPerOne_eq]
    have hMul := Nat.mul_lt_mul_of_pos_right h (Nat.mul_pos (Nat.two_pow_pos 14) fineSpacing_pos)
    generalize fineSpacing = fine at *
    omega
  rw [← spacing_fineSpacing] at hLt
  exact (spacing_le_of_lt hLt).trans_eq spacing_fineSpacing

/-- The number nearest to a text of few digits is not too large, and is written as that text. -/
theorem roundHalfEven_roundUnits (h : count ≤ 2 ^ 39 * 10 ^ 4) :
    roundUnits (count * unitsPerOne) (10 ^ 4) < unitsLimit ∧
      roundHalfEven (roundUnits (count * unitsPerOne) (10 ^ 4) * 10 ^ 4) unitsPerOne = count := by
  have hUnit := unitsPerOne_eq
  have hPos := fineSpacing_pos
  rcases Nat.lt_or_eq_of_le h with hLt | rfl
  · have hError := roundUnits_error (count * unitsPerOne) (show 0 < 10 ^ 4 by omega)
    have hFine := Nat.mul_le_mul_right (10 ^ 4) (spacing_le_of_count_lt hLt)
    have hMul := Nat.mul_lt_mul_of_pos_right hLt unitsPerOne_pos
    exact ⟨lt_unitsLimit (by omega), roundHalfEven_eq unitsPerOne_pos (by omega) (by omega)
      fun _ => by omega⟩
  · have hGrid : 2 ^ 39 * unitsPerOne % spacing (2 ^ 39 * unitsPerOne) = 0 := by
      rw [unitsPerOne]
      exact mul_two_pow_mod_spacing unitExponent (by omega)
    rw [Nat.mul_right_comm, roundUnits_mul hGrid (by omega), Nat.mul_right_comm,
      roundHalfEven_mul _ unitsPerOne_pos]
    exact ⟨lt_unitsLimit (by omega), rfl⟩

end

namespace Magnitude

theorem length_inPlaces (m : Magnitude) {n : Nat} (h : 346 ≤ n) :
    (m.inPlaces 4).repr.length ≤ n := by
  obtain ⟨k, rfl⟩ : ∃ k, n = k + 4 := ⟨n - 4, by omega⟩
  obtain ⟨-, hUpper⟩ := roundHalfEven_near (m.units * 10 ^ 4) unitsPerOne_pos
  have hLimit := two_mul_unitsLimit_le (show 342 ≤ k by omega)
  have hUnits := m.units_lt
  have hPos := unitsPerOne_pos
  have hOne : unitsPerOne ≤ 10 ^ k * unitsPerOne :=
    Nat.le_mul_of_pos_left _ (Nat.pow_pos (by omega))
  rw [Nat.length_repr_le_iff (by omega), Nat.pow_add, inPlaces]
  generalize 10 ^ k = bound at *
  generalize unitsLimit = limit at *
  by_contra hn
  have hMul := Nat.mul_le_mul_right unitsPerOne (Nat.le_of_not_lt hn)
  rw [Nat.mul_right_comm] at hMul
  omega

/-- A magnitude that is a whole number has fewer digits than there are powers of ten below it. -/
theorem length_toNat? {m : Magnitude} {count n : Nat} (h : m.toNat? = some count)
    (hLong : 342 ≤ n) : count.repr.length ≤ n := by
  rw [toNat?] at h
  split at h
  · obtain rfl := Option.some.inj h
    have hLimit := two_mul_unitsLimit_le hLong
    have hUnits := m.units_lt
    rw [Nat.length_repr_le_iff (by omega), Nat.div_lt_iff_lt_mul unitsPerOne_pos]
    exact Nat.lt_of_lt_of_le (by omega) hLimit
  · cases h

/-- Writing a number to four places, reading it and writing it again is writing it once. -/
theorem inPlaces_nearest? (m : Magnitude) : ∃ m' : Magnitude,
    nearest? (m.inPlaces 4 * unitsPerOne) (10 ^ 4) = some m' ∧ m'.inPlaces 4 = m.inPlaces 4 := by
  have hText : m.inPlaces 4 = roundHalfEven (m.units * 10 ^ 4) unitsPerOne := rfl
  have hRound : roundUnits (m.inPlaces 4 * unitsPerOne) (10 ^ 4) < unitsLimit ∧
      roundHalfEven (roundUnits (m.inPlaces 4 * unitsPerOne) (10 ^ 4) * 10 ^ 4) unitsPerOne =
        m.inPlaces 4 := by
    rcases spacing_le_or_le m.units with hFine | ⟨hCoarse, hDvd⟩
    · exact roundHalfEven_roundUnits (count_le_of_fine hText hFine)
    · rw [roundUnits_of_coarse hText m.units_mod_spacing hCoarse hDvd]
      exact ⟨m.units_lt, rfl⟩
  obtain ⟨hLt, hEq⟩ := hRound
  exact ⟨_, dif_pos hLt, hEq⟩

end Magnitude

end ReportPress
