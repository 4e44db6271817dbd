import Mathlib.Tactic.Linarith
import Mathlib.Tactic.Ring
import ReportPress.Binary64

/-!
The numbers that round to a number of the format. Around each number on the grid lies a range that
ends halfway to its neighbours; below a power of two the lower neighbour is only half as far. Main
statement: `roundUnits_of_inRange`, all of the range rounds to the number.
-/

namespace ReportPress

/-- What is nearest to a quotient is its rounding; of two that are equally near, only the even one
is. -/
theorem roundHalfEven_eq {num den n : Nat} (h : 0 < den) (hLow : 2 * (n * den) ≤ 2 * num + den)
    (hHigh : 2 * num ≤ 2 * (n * den) + den)
    (hTie : n % 2 = 1 → 2 * (n * den) < 2 * num + den ∧ 2 * num < 2 * (n * den) + den) :
    roundHalfEven num den = n := by
  have hDiv := Nat.div_add_mod num den
  have hMod := Nat.mod_lt num h
  rw [Nat.mul_comm] at hDiv
  have hUpper : n ≤ num / den + 1 := by
    by_contra hn
    have := Nat.mul_le_mul_right den (show num / den + 2 ≤ n by omega)
    rw [Nat.add_mul] at this
    omega
  have hLower : num / den ≤ n := by
    by_contra hn
    have := Nat.mul_le_mul_right den (show n + 1 ≤ num / den by omega)
    rw [Nat.add_mul] at this
    omega
  simp only [roundHalfEven]
  obtain rfl | rfl : n = num / den ∨ n = num / den + 1 := by omega
  · split
    · rfl
    · split <;> omega
  · rw [Nat.add_mul] at hLow hHigh hTie
    split
    · omega
    · split <;> omega

/-- The step to the lower neighbour of a number of the format, doubled. -/
def stepBelow (units : Nat) : Nat :=
  if units = 2 ^ 52 * spacing units ∧ 1 < spacing units then spacing units else 2 * spacing units

/-- The quotient lies between the midpoints from the number to its neighbours, which belong to the
range if the last bit of the number is even. All is measured in quarters of a unit. -/
def InRange (units num den : Nat) : Prop :=
  (4 * units - stepBelow units) * den ≤ 4 * num ∧ 4 * num ≤ (4 * units + 2 * spacing units) * den ∧
    (units / spacing units % 2 = 1 → (4 * units - stepBelow units) * den < 4 * num ∧
      4 * num < (4 * units + 2 * spacing units) * den)

theorem stepBelow_le (units : Nat) : stepBelow units ≤ 2 * spacing units := by
  rw [stepBelow]
  split <;> omega

theorem spacing_mono {a b : Nat} (h : a ≤ b) : spacing a ≤ spacing b := by
  rcases Nat.eq_zero_or_pos a with rfl | hPos
  · exact Nat.pow_le_pow_right (by omega) (by simp)
  · have hLog : a.log2 ≤ b.log2 :=
      (Nat.le_log2 (by omega)).2 (Nat.le_trans (Nat.log2_self_le (by omega)) h)
    exact Nat.pow_le_pow_right (by omega) (by omega)

/-- A number of the format has at most 53 bits. -/
theorem units_lt_spacing (units : Nat) : units < 2 ^ 53 * spacing units := by
  have hLog : units < 2 ^ (units.log2 + 1) := Nat.lt_log2_self
  refine Nat.lt_of_lt_of_le hLog ?_
  rw [spacing, ← Nat.pow_add]
  exact Nat.pow_le_pow_right (by omega) (by omega)

/-- A number of the format above the finest grid has 53 bits. -/
theorem spacing_le_units {units : Nat} (h : 1 < spacing units) : 2 ^ 52 * spacing units ≤ units := by
  have hLog : 52 < units.log2 := by
    by_contra hn
    rw [spacing, show units.log2 - 52 = 0 by omega] at h
    omega
  refine Nat.le_trans ?_ (@Nat.log2_self_le units (by rintro rfl; simp at hLog))
  rw [spacing, ← Nat.pow_add]
  exact Nat.pow_le_pow_right (by omega) (by omega)

/-- Below a number that is twice as large as another of the format the grid is at least as fine. -/
theorem spacing_le_of_lt {a units : Nat} (h : a < 2 ^ 53 * spacing units) :
    spacing a ≤ spacing units := by
  have hPos : a ≠ 0 → a.log2 < 53 + (units.log2 - 52) := fun ha => by
    rw [spacing, ← Nat.pow_add] at h
    exact (Nat.log2_lt ha).2 h
  rcases Nat.eq_zero_or_pos a with rfl | ha
  · exact Nat.pow_le_pow_right (by omega) (by simp)
  · exact Nat.pow_le_pow_right (by omega) (by have := hPos (by omega); omega)

theorem spacing_two_pow_mul (s : Nat) : spacing (2 ^ 52 * 2 ^ s) = 2 ^ s := by
  rw [spacing, ← Nat.pow_add, Nat.log2_two_pow, Nat.add_sub_cancel_left]

/-- Between two powers of two the spacing is the same. The finest grid goes down to zero. -/
theorem spacing_eq_two_pow {units s : Nat} (hLow : s = 0 ∨ 2 ^ 52 * 2 ^ s ≤ units)
    (hHigh : units < 2 ^ 53 * 2 ^ s) : spacing units = 2 ^ s := by
  have hPower := spacing_two_pow_mul s
  refine Nat.le_antisymm ?_ ?_
  · rw [← hPower]
    apply spacing_le_of_lt
    rwa [hPower]
  · rcases hLow with rfl | hLow
    · exact spacing_pos _
    · exact hPower.symm.trans_le (spacing_mono hLow)

theorem units_eq_mul {units : Nat} (h : units % spacing units = 0) :
    units = units / spacing units * spacing units := by
  have := Nat.div_add_mod units (spacing units)
  rw [h, Nat.mul_comm] at this
  omega

theorem div_lt_of_inRange {units num den : Nat} (h : units % spacing units = 0) (hDen : 0 < den)
    (hRange : InRange units num den) : num / den < 2 ^ 53 * spacing units := by
  have hUnits := units_eq_mul h
  have hLt := units_lt_spacing units
  generalize units / spacing units = m at hUnits
  have hm : m + 1 ≤ 2 ^ 53 := by
    by_contra hn
    have := Nat.mul_le_mul_right (spacing units) (show 2 ^ 53 ≤ m by omega)
    omega
  have hTop := Nat.mul_le_mul_right (spacing units) hm
  rw [Nat.add_mul, Nat.one_mul, ← hUnits] at hTop
  have hHigh := Nat.mul_le_mul_right den hTop
  rw [Nat.add_mul] at hHigh
  have hNum := hRange.2.1
  rw [Nat.add_mul, Nat.mul_assoc, Nat.mul_assoc] at hNum
  refine (Nat.div_lt_iff_lt_mul hDen).2 ?_
  have := Nat.mul_pos (spacing_pos units) hDen
  omega

/-- Where the quotient has the spacing of the number, it rounds to it. -/
theorem roundUnits_of_spacing_eq {units num den : Nat} (h : units % spacing units = 0)
    (hDen : 0 < den) (hRange : InRange units num den)
    (hSpacing : spacing (num / den) = spacing units) : roundUnits num den = units := by
  have hUnits := units_eq_mul h
  have hPos := spacing_pos units
  obtain ⟨hLow, hHigh, hTie⟩ := hRange
  have hBelow := stepBelow_le units
  have hStep : (4 * units - stepBelow units) * den + 2 * (spacing units * den) ≥ 4 * (units * den) := by
    rw [← Nat.mul_assoc, ← Nat.mul_assoc, ← Nat.add_mul]
    exact Nat.mul_le_mul_right den (by omega)
  have hSum : (4 * units + 2 * spacing units) * den = 4 * (units * den) + 2 * (spacing units * den) := by
    ring
  rw [hSum] at hHigh hTie
  have hMul : units / spacing units * (den * spacing units) = units * den := by
    conv_rhs => rw [hUnits]
    ring
  rw [roundUnits, hSpacing,
    @roundHalfEven_eq _ _ (units / spacing units) (Nat.mul_pos hDen hPos), ← hUnits]
  · rw [hMul, Nat.mul_comm den]
    omega
  · rw [hMul, Nat.mul_comm den]
    omega
  · intro hOdd
    have := hTie hOdd
    rw [hMul, Nat.mul_comm den]
    omega

/-- Only below a power of two is the spacing of a quotient finer than that of the number. -/
theorem eq_of_spacing_lt {units num den : Nat} (h : units % spacing units = 0) (hDen : 0 < den)
    (hRange : InRange units num den) (hSpacing : spacing (num / den) < spacing units) :
    units = 2 ^ 52 * spacing units ∧ 1 < spacing units := by
  have hOne : 1 < spacing units := Nat.lt_of_le_of_lt (spacing_pos _) hSpacing
  refine ⟨?_, hOne⟩
  by_contra hne
  have hUnits := units_eq_mul h
  have hLarge := spacing_le_units hOne
  have hm : 2 ^ 52 + 1 ≤ units / spacing units := by
    rw [Nat.succ_le_iff, Nat.lt_iff_le_and_ne, Nat.le_div_iff_mul_le (spacing_pos _)]
    refine ⟨hLarge, fun hEq => hne ?_⟩
    rw [hEq]
    exact hUnits
  have hMore := Nat.mul_le_mul_right (spacing units) hm
  rw [← hUnits, Nat.add_mul, Nat.one_mul] at hMore
  -- the lower end of the range is at least the power of two, so the quotient is too
  have hEnd : 4 * (2 ^ 52 * spacing units) ≤ 4 * units - stepBelow units := by
    have := stepBelow_le units
    omega
  have hLow := Nat.le_trans (Nat.mul_le_mul_right den hEnd) hRange.1
  have hQuotient : 2 ^ 52 * spacing units ≤ num / den := by
    rw [Nat.le_div_iff_mul_le hDen]
    rw [Nat.mul_assoc] at hLow
    omega
  have hTop : spacing (2 ^ 52 * spacing units) = spacing units := spacing_two_pow_mul _
  have hMono := spacing_mono hQuotient
  omega

theorem exists_half_spacing {units : Nat} (h : 1 < spacing units) :
    ∃ s, spacing units = 2 * 2 ^ s := by
  have hExponent : units.log2 - 52 ≠ 0 := by
    intro hZero
    simp [spacing, hZero] at h
  obtain ⟨s, hs⟩ := Nat.exists_eq_succ_of_ne_zero hExponent
  exact ⟨s, by rw [spacing, hs, Nat.pow_succ']⟩

/-- Just below a power of two the spacing is half of that of the power. -/
theorem roundUnits_of_spacing_lt {units num den : Nat} (h : units % spacing units = 0)
    (hDen : 0 < den) (hRange : InRange units num den)
    (hSpacing : spacing (num / den) < spacing units) : roundUnits num den = units := by
  obtain ⟨hUnits, hOne⟩ := eq_of_spacing_lt h hDen hRange hSpacing
  obtain ⟨hLow, -⟩ := hRange
  rw [stepBelow, if_pos ⟨hUnits, hOne⟩] at hLow
  have hBelow : num / den < units := by
    by_contra hn
    have := spacing_mono (show units ≤ num / den by omega)
    omega
  obtain ⟨s, hDouble⟩ := exists_half_spacing hOne
  have hPos : 0 < 2 ^ s := Nat.two_pow_pos s
  rw [hDouble] at hUnits hLow
  have hQuotient : 2 ^ 52 * 2 ^ s ≤ num / den := by
    rw [Nat.le_div_iff_mul_le hDen]
    have hEnd : 4 * (2 ^ 52 * 2 ^ s) ≤ 4 * units - 2 * 2 ^ s := by omega
    have := Nat.le_trans (Nat.mul_le_mul_right den hEnd) hLow
    rw [Nat.mul_assoc] at this
    omega
  have hStep : spacing (num / den) = 2 ^ s := spacing_eq_two_pow (.inr hQuotient) (by omega)
  have hNum : num < units * den := (Nat.div_lt_iff_lt_mul hDen).1 hBelow
  have hMul : 2 ^ 53 * (den * 2 ^ s) = units * den := by
    rw [hUnits]
    ring
  have hLower : 4 * (units * den) ≤ 4 * num + 2 * (den * 2 ^ s) := by
    have hEnd : 4 * units ≤ 4 * units - 2 * 2 ^ s + 2 * 2 ^ s := by omega
    have := Nat.mul_le_mul_right den hEnd
    rw [Nat.add_mul] at this
    calc
      4 * (units * den) = 4 * units * den := by ring
      _ ≤ (4 * units - 2 * 2 ^ s) * den + 2 * 2 ^ s * den := this
      _ ≤ 4 * num + 2 * 2 ^ s * den := Nat.add_le_add_right hLow _
      _ = 4 * num + 2 * (den * 2 ^ s) := by ring
  -- the power has an even count of the finer steps, so that it wins where the two are equally near
  rw [roundUnits, hStep, @roundHalfEven_eq _ _ (2 ^ 53) (Nat.mul_pos hDen hPos)]
  · omega
  · omega
  · omega
  · intro hOdd
    omega

/-- All quotients in the range of a number of the format round to it. -/
theorem roundUnits_of_inRange {units num den : Nat} (h : units % spacing units = 0)
    (hDen : 0 < den) (hRange : InRange units num den) : roundUnits num den = units := by
  have hLe := spacing_le_of_lt (div_lt_of_inRange h hDen hRange)
  rcases Nat.lt_or_eq_of_le hLe with hLt | hEq
  · exact roundUnits_of_spacing_lt h hDen hRange hLt
  · exact roundUnits_of_spacing_eq h hDen hRange hEq

theorem roundUnits_mul {units den : Nat} (h : units % spacing units = 0) (hDen : 0 < den) :
    roundUnits (units * den) den = units := by
  have hUnits := units_eq_mul h
  have hMul : units * den = units / spacing units * (den * spacing units) := by
    conv_lhs => rw [hUnits]
    ring
  rw [roundUnits, Nat.mul_div_cancel _ hDen, hMul,
    roundHalfEven_mul _ (Nat.mul_pos hDen (spacing_pos _)), ← hUnits]

/-- The rounding in parts of the quotient is a rounding to multiples of the spacing in parts. -/
theorem roundUnits_mul_den (num den : Nat) : roundUnits num den * den =
    roundHalfEven num (den * spacing (num / den)) * (den * spacing (num / den)) := by
  rw [roundUnits]
  ring

/-- Rounding moves a quotient by at most half the spacing at it. -/
theorem roundUnits_error (num : Nat) {den : Nat} (hDen : 0 < den) :
    2 * (roundUnits num den * den) ≤ 2 * num + spacing (num / den) * den ∧
      2 * num ≤ 2 * (roundUnits num den * den) + spacing (num / den) * den := by
  have hPos := Nat.mul_pos hDen (spacing_pos (num / den))
  rw [roundUnits_mul_den, Nat.mul_comm (spacing _)]
  exact (roundHalfEven_near num hPos).symm

end ReportPress
