import ReportPress.Proofs.Binary64.Decimal
import ReportPress.Proofs.Binary64.Places
import ReportPress.Proofs.Text.Numeral

/-!
The shortest decimal of a number reads back as the number. A decimal is chosen only if it lies in
the range of the number, and of the decimals with 17 digits the nearest one always does. Main
statement: `toBinary64_of_inRange`.
-/

namespace ReportPress

section

variable {units : Nat}

theorem spacing_le_self (h : units ≠ 0) : spacing units ≤ units := by
  rcases Nat.lt_or_ge 1 (spacing units) with hCoarse | hFine
  · have := spacing_le_units hCoarse
    omega
  · omega

/-- The range of a number does not reach down to zero. -/
theorem InRange.den_le {num den : Nat} (h : units ≠ 0) (hRange : InRange units num den) :
    den ≤ 2 * num := by
  have hSpacing := spacing_le_self h
  have hStep := stepBelow_le units
  have hLow := Nat.le_trans (Nat.mul_le_mul_right den
    (show 2 ≤ 4 * units - stepBelow units by omega)) hRange.1
  omega

/-- The range of a number ends before its double. -/
theorem InRange.num_le {num den : Nat} (h : units ≠ 0) (hRange : InRange units num den) :
    num ≤ 2 * (units * den) := by
  have hSpacing := spacing_le_self h
  have hHigh := Nat.le_trans hRange.2.1 (Nat.mul_le_mul_right den
    (show 4 * units + 2 * spacing units ≤ 8 * units by omega))
  rw [Nat.mul_assoc] at hHigh
  omega

theorem InRange.congr {a b c d : Nat} (hb : 0 < b) (hd : 0 < d) (h : a * d = c * b)
    (hRange : InRange units a b) : InRange units c d := by
  have hScale : 4 * a * d = 4 * c * b := by rw [Nat.mul_assoc, h, Nat.mul_assoc]
  have hLe {n : Nat} : n * d ≤ 4 * c ↔ n * b ≤ 4 * a := by
    rw [← Nat.mul_le_mul_right_iff hb, ← hScale, Nat.mul_right_comm, Nat.mul_le_mul_right_iff hd]
  have hGe {n : Nat} : 4 * c ≤ n * d ↔ 4 * a ≤ n * b := by
    rw [← Nat.mul_le_mul_right_iff hb, ← hScale, Nat.mul_right_comm n, Nat.mul_le_mul_right_iff hd]
  obtain ⟨hLow, hHigh, hTie⟩ := hRange
  refine ⟨hLe.2 hLow, hGe.2 hHigh, fun hOdd => ?_⟩
  have hStrict := hTie hOdd
  exact ⟨Nat.lt_of_not_le fun hn => Nat.not_le_of_lt hStrict.1 (hGe.1 hn),
    Nat.lt_of_not_le fun hn => Nat.not_le_of_lt hStrict.2 (hLe.1 hn)⟩

/-- A decimal at least as precise as 17 digits is in the range if it is the nearest one. Both the
number and the decimal are counted in parts of a common unit. -/
theorem inRange_nearest {scale step : Nat} (hScale : 0 < scale) (hStep : 0 < step)
    (hPrecise : step * 10 ^ 16 ≤ units * scale) :
    InRange units (roundHalfEven (units * scale) step * step) scale := by
  obtain ⟨hLower, hUpper⟩ := roundHalfEven_near (units * scale) hStep
  have hBits := Nat.mul_lt_mul_of_pos_right (units_lt_spacing units) hScale
  rw [Nat.mul_assoc] at hBits
  -- below a power of two the lower half of the range is only half as wide, but there the number is
  -- at the lower end of its grid, so that its last bit is worth more
  have hBelow : 2 * step < stepBelow units * scale := by
    rw [stepBelow]
    split
    · rename_i hPower
      have hUnits : units * scale = 2 ^ 52 * (spacing units * scale) := by
        rw [← Nat.mul_assoc, ← hPower.1]
      omega
    · rw [Nat.mul_assoc]
      omega
  have hLow : (4 * units - stepBelow units) * scale =
      4 * (units * scale) - stepBelow units * scale := by
    rw [Nat.sub_mul, Nat.mul_assoc]
  have hHigh : (4 * units + 2 * spacing units) * scale =
      4 * (units * scale) + 2 * (spacing units * scale) := by
    ring
  rw [InRange, hLow, hHigh]
  refine ⟨?_, ?_, fun _ => ⟨?_, ?_⟩⟩
  all_goals omega

end

namespace Magnitude

/-- A decimal reads back exactly if it lies in the range of the number. -/
theorem readsBack_iff (m : Magnitude) (power : Int) (digits : Nat) :
    m.readsBack power digits = true ↔ InRange m.units (Decimal.num ⟨digits, power⟩ * unitsPerOne)
      (Decimal.den ⟨digits, power⟩) := by
  have hParity {low high num : Nat} : (if m.units / spacing m.units % 2 = 0 then
      decide (low ≤ num) && decide (num ≤ high) else decide (low < num) && decide (num < high)) =
        true ↔ low ≤ num ∧ num ≤ high ∧
          (m.units / spacing m.units % 2 = 1 → low < num ∧ num < high) := by
    split <;> simp <;> omega
  cases power with
  | ofNat p =>
    have hNum : 4 * (digits * 10 ^ p * unitsPerOne) = 4 * digits * 10 ^ p * unitsPerOne := by ring
    rw [InRange, Decimal.num, Decimal.den, hNum]
    exact hParity
  | negSucc p =>
    have hNum : 4 * (digits * unitsPerOne) = 4 * digits * unitsPerOne := by ring
    rw [InRange, Decimal.num, Decimal.den, hNum]
    exact hParity

theorem inRange_of_near? {m : Magnitude} {power : Int} {num den : Nat} {d : Decimal}
    (h : m.near? power num den = some d) : InRange m.units (d.num * unitsPerOne) d.den := by
  rw [near?] at h
  generalize roundHalfEven num den = nearest at h
  generalize (if nearest * den ≤ num then nearest + 1 else nearest - 1) = other at h
  by_cases hNearest : m.readsBack power nearest = true
  · rw [if_pos hNearest] at h
    obtain rfl := Option.some.inj h
    exact (readsBack_iff _ _ _).1 hNearest
  · rw [if_neg hNearest] at h
    by_cases hOther : m.readsBack power other = true
    · rw [if_pos hOther] at h
      obtain rfl := Option.some.inj h
      exact (readsBack_iff _ _ _).1 hOther
    · rw [if_neg hOther] at h
      cases h

/-- The nearest decimal is chosen if it is precise. -/
theorem exists_near? {m : Magnitude} {power : Int}
    (hPrecise : (m.inPowersOfTen power).2 * 10 ^ 16 ≤ (m.inPowersOfTen power).1) :
    ∃ d, m.near? power (m.inPowersOfTen power).1 (m.inPowersOfTen power).2 = some d := by
  refine ⟨⟨roundHalfEven (m.inPowersOfTen power).1 (m.inPowersOfTen power).2, power⟩, ?_⟩
  rw [near?]
  refine if_pos ((readsBack_iff _ _ _).2 ?_)
  cases power with
  | ofNat p =>
    have hStep : 0 < unitsPerOne * 10 ^ p := Nat.mul_pos unitsPerOne_pos (Nat.pow_pos (by omega))
    rw [inPowersOfTen] at hPrecise ⊢
    rw [← Nat.mul_one m.units] at hPrecise
    have hNear := inRange_nearest (by omega) hStep hPrecise
    rw [Nat.mul_one] at hNear
    rw [Decimal.num_ofNat, Decimal.den_ofNat, Nat.mul_assoc, Nat.mul_comm (10 ^ p)]
    exact hNear
  | negSucc p =>
    rw [Decimal.num_negSucc, Decimal.den_negSucc]
    exact inRange_nearest (Nat.pow_pos (by omega)) unitsPerOne_pos hPrecise

end Magnitude

theorem two_mul_unitsPerOne_le {k : Nat} (h : 359 ≤ k) : 2 * unitsPerOne ≤ 10 ^ k := by
  have hExponent : unitExponent + 1 ≤ 3 * k := by
    rw [unitExponent]
    omega
  delta unitsPerOne
  generalize unitExponent = n at hExponent
  exact two_mul_two_pow_le hExponent

namespace Magnitude

/-- The scale, with a name for its exponent. -/
theorem exists_decimalScale : ∃ places : Nat, places = 400 ∧ decimalScale = 10 ^ places :=
  ⟨scalePlaces, rfl, rfl⟩

theorem decimalScale_pos : 0 < decimalScale := by
  obtain ⟨places, -, hScale⟩ := exists_decimalScale
  rw [hScale]
  exact Nat.pow_pos (by omega)

theorem two_mul_unitsPerOne_le_decimalScale : 2 * unitsPerOne ≤ decimalScale := by
  obtain ⟨places, rfl, hScale⟩ := exists_decimalScale
  rw [hScale]
  exact two_mul_unitsPerOne_le (by omega)

/-- The number whose range holds a quotient is the one nearest to it. -/
theorem nearest?_of_inRange {m : Magnitude} {num den : Nat} (hDen : 0 < den)
    (hRange : InRange m.units num den) : nearest? num den = some m := by
  have hRound := roundUnits_of_inRange m.units_mod_spacing hDen hRange
  obtain ⟨units, hGrid, hLt⟩ := m
  obtain rfl : roundUnits num den = units := hRound
  exact dif_pos hLt

section

variable {m : Magnitude} (h : m.units ≠ 0)
include h

/-- The decimal exponent is that of a power of ten below the magnitude. -/
theorem ten_pow_le_units : ∃ k : Nat, (k : Int) = m.decimalExponent + 400 ∧
    10 ^ k * unitsPerOne ≤ m.units * decimalScale := by
  have hScale := two_mul_unitsPerOne_le_decimalScale
  have hPos := unitsPerOne_pos
  have hUnits : decimalScale ≤ m.units * decimalScale :=
    Nat.le_mul_of_pos_left _ (Nat.pos_of_ne_zero h)
  have hQuotient : 1 ≤ m.units * decimalScale / unitsPerOne := by
    rw [Nat.le_div_iff_mul_le hPos]
    omega
  have hDiv := Nat.div_mul_le_self (m.units * decimalScale) unitsPerOne
  rw [decimalExponent]
  generalize m.units * decimalScale / unitsPerOne = count at hQuotient hDiv
  obtain ⟨k, hk⟩ : ∃ k, count.repr.length = k + 1 := by
    refine ⟨count.repr.length - 1, ?_⟩
    have := List.length_pos_iff.2 (Text.repr_ne_nil count)
    rw [Text.length_repr_toList] at this
    omega
  refine ⟨k, by omega, Nat.le_trans (Nat.mul_le_mul_right _ ?_) hDiv⟩
  have hFirst := Decimal.ten_pow_length_le (Nat.ne_of_gt hQuotient)
  rwa [hk, Nat.add_sub_cancel] at hFirst

theorem exists_withDigits? : ∃ d, m.withDigits? 17 = some d := by
  obtain ⟨k, hk, hBelow⟩ := ten_pow_le_units h
  obtain ⟨places, hPlaces, hScale⟩ := exists_decimalScale
  have hPos := decimalScale_pos
  rw [withDigits?]
  refine exists_near? ?_
  have hPower : m.decimalExponent - (17 : Nat) + 1 = (k : Int) - 16 - places := by omega
  rw [hPower]
  -- both sides are compared at the scale, where no power of ten has a minus sign
  cases hCase : (k : Int) - 16 - places with
  | ofNat p =>
    have hExponent : k = p + 16 + places := by
      rw [Int.ofNat_eq_natCast] at hCase
      omega
    rw [hExponent, Nat.pow_add, ← hScale] at hBelow
    rw [inPowersOfTen]
    refine Nat.le_of_mul_le_mul_right ?_ hPos
    calc
      unitsPerOne * 10 ^ p * 10 ^ 16 * decimalScale =
          10 ^ (p + 16) * decimalScale * unitsPerOne := by
        ring
      _ ≤ m.units * decimalScale := hBelow
  | negSucc q =>
    have hExponent : 16 + places = k + (q + 1) := by omega
    have hSplit : 10 ^ 16 * decimalScale = 10 ^ k * 10 ^ (q + 1) := by
      rw [hScale, ← Nat.pow_add, ← Nat.pow_add, hExponent]
    rw [inPowersOfTen]
    refine Nat.le_of_mul_le_mul_right ?_ hPos
    calc
      unitsPerOne * 10 ^ 16 * decimalScale = 10 ^ k * unitsPerOne * 10 ^ (q + 1) := by
        rw [Nat.mul_assoc, hSplit]
        ring
      _ ≤ m.units * decimalScale * 10 ^ (q + 1) := Nat.mul_le_mul_right _ hBelow
      _ = m.units * 10 ^ (q + 1) * decimalScale := by ring

theorem inRange_shortest :
    InRange m.units (m.shortest.num * unitsPerOne) m.shortest.den := by
  obtain ⟨d, hLast⟩ := exists_withDigits? h
  have hSome : ((List.range 17).findSome? fun n => m.withDigits? (n + 1)).isSome = true := by
    rw [List.isSome_findSome?, List.any_eq_true]
    exact ⟨16, by decide, by rw [hLast]; rfl⟩
  obtain ⟨found, hFound⟩ := Option.isSome_iff_exists.1 hSome
  obtain ⟨n, -, hDigits⟩ := List.exists_of_findSome?_eq_some hFound
  rw [shortest, hFound]
  rw [withDigits?] at hDigits
  exact inRange_of_near? hDigits

theorem digits_ne_zero {d : Decimal} (hRange : InRange m.units (d.num * unitsPerOne) d.den) :
    d.digits ≠ 0 := by
  have hLower := hRange.den_le h
  have hDen := d.den_pos
  intro hZero
  obtain ⟨digits, exponent⟩ := d
  obtain rfl : digits = 0 := hZero
  rw [Decimal.num_zero] at hLower
  omega

/-- All decimals in the range of a number are read as the number. -/
theorem toBinary64_of_inRange (negative : Bool) {d : Decimal}
    (hRange : InRange m.units (d.num * unitsPerOne) d.den) :
    d.toBinary64 negative = .finite negative m := by
  have hPos := unitsPerOne_pos
  have hLower := hRange.den_le h
  have hUpper := hRange.num_le h
  have hDen := d.den_pos
  obtain ⟨places, hPlaces, hScale⟩ := exists_decimalScale
  -- the range keeps the place of the point within the bounds beyond which reading cuts decimals off
  have hLow : d.den ≤ d.num * 10 ^ places := by
    have hMul := Nat.mul_le_mul_left d.num two_mul_unitsPerOne_le_decimalScale
    rw [Nat.mul_left_comm, hScale] at hMul
    exact Nat.le_trans hLower hMul
  have hHigh : d.num < 10 ^ places * d.den := by
    have hLimit := two_mul_unitsLimit_le (show 342 ≤ places by omega)
    have hUnits := m.units_lt
    generalize unitsLimit = limit at hLimit hUnits
    refine @Nat.lt_of_mul_lt_mul_right unitsPerOne _ _ ?_
    calc
      d.num * unitsPerOne ≤ 2 * (m.units * d.den) := hUpper
      _ = 2 * m.units * d.den := (Nat.mul_assoc ..).symm
      _ < 10 ^ places * unitsPerOne * d.den := Nat.mul_lt_mul_of_pos_right (by omega) hDen
      _ = 10 ^ places * d.den * unitsPerOne := Nat.mul_right_comm ..
  have hDigits := digits_ne_zero h hRange
  have hFirst := Decimal.neg_le_point_of_den_le hLow
  have hLast := Decimal.point_le_of_num_lt hDigits hHigh
  rw [Decimal.toBinary64_eq negative hDigits (by omega) (by omega), nearest?_of_inRange hDen hRange,
    Binary64.signed]

end

end Magnitude

end ReportPress
