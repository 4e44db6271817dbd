import ReportPress.Proofs.Binary64.Shortest
import ReportPress.Proofs.Json.Numeral

/-!
Numbers with a fraction in JSON text. The written form of a decimal is a numeral of the same value,
whatever place its point has, and so the shortest form of a number is read as the number. Main
statement: `scalar_floatChars`.
-/

namespace ReportPress.Json

/-- What is left of a text and zeros make up the text. -/
theorem exists_zeros (cs : List Char) :
    ∃ k, cs = Text.trimEnd (· == '0') cs ++ List.replicate k '0' := by
  have hSplit := congrArg List.reverse
    (@List.takeWhile_append_dropWhile _ (· == '0') cs.reverse)
  rw [List.reverse_append, List.reverse_reverse] at hSplit
  refine ⟨(cs.reverse.takeWhile (· == '0')).length, ?_⟩
  conv_lhs => rw [← hSplit]
  rw [Text.trimEnd, List.append_cancel_left_eq, List.eq_replicate_iff, List.length_reverse]
  refine ⟨rfl, fun c hc => ?_⟩
  have hAll := List.all_eq_true.1 (@List.all_takeWhile _ (· == '0') cs.reverse) c
    (List.mem_reverse.1 hc)
  simpa using hAll

/-- A numeral that a decimal's digits are laid out as. -/
structure IsLayout (digits : List Char) (point : Int) (n : Numeral) : Prop where
  isWellFormed : n.IsWellFormed
  chars_eq : Decimal.layout digits point = n.chars
  value_eq : ∃ (k : Nat) (e : Int),
    n.value = ⟨Nat.ofDigitChars 10 digits 0 * 10 ^ k, e⟩ ∧ k + e = point - digits.length

theorem lt_digitLimit {n : Nat} (h : n ≤ 16) : n < Text.digitLimit := Nat.lt_of_le_of_lt h (by decide)

section

variable {digits : List Char} (hDigits : ∀ c ∈ digits, c.isDigit = true) (hNil : digits ≠ [])
  (hHead : digits.head? ≠ some '0')
include hDigits hNil hHead

theorem isWhole_take {count : Nat} (hCount : 0 < count) : IsWhole (digits.take count) where
  isDigit _ hc := hDigits _ (List.mem_of_mem_take hc)
  ne_nil := by
    obtain ⟨c, tail, rfl⟩ := List.exists_cons_of_ne_nil hNil
    rw [List.take_cons hCount]
    exact List.cons_ne_nil _ _
  eq_zero h := by
    obtain ⟨c, tail, rfl⟩ := List.exists_cons_of_ne_nil hNil
    rw [List.take_cons hCount] at h
    exact absurd h hHead

theorem isWhole_append_zeros (count : Nat) : IsWhole (digits ++ List.replicate count '0') where
  isDigit c hc := by
    rcases List.mem_append.1 hc with hDigit | hZero
    · exact hDigits c hDigit
    · rw [(List.mem_replicate.1 hZero).2]
      decide
  ne_nil := List.append_ne_nil_of_left_ne_nil hNil _
  eq_zero h := by
    obtain ⟨c, tail, rfl⟩ := List.exists_cons_of_ne_nil hNil
    exact absurd h hHead

omit hHead in
/-- Without a digit in front of the point a zero stands there. -/
theorem isLayout_small {point : Int} (hPositional : -4 < point ∧ point ≤ 16) (h : point ≤ 0) :
    IsLayout digits point ⟨['0'], List.replicate (-point).toNat '0' ++ digits, none⟩ where
  isWellFormed := {
    isWhole := isWhole_zero
    length_lt := lt_digitLimit (by simp)
    isDigit := by
      intro c hc
      rcases List.mem_append.1 hc with hZero | hDigit
      · rw [(List.mem_replicate.1 hZero).2]
        decide
      · exact hDigits c hDigit
    inexact := .inl (List.append_ne_nil_of_right_ne_nil _ hNil) }
  chars_eq := by
    rw [Decimal.layout, if_pos hPositional, if_pos h, Numeral.chars,
      if_neg (List.append_ne_nil_of_right_ne_nil _ hNil)]
    simp
  value_eq := by
    refine ⟨0, point - digits.length, ?_, by omega⟩
    rw [Numeral.value, Nat.ofDigitChars_append, Nat.ofDigitChars_append,
      Nat.ofDigitChars_replicate_zero]
    simp [Nat.ofDigitChars_cons]
    omega

/-- With all digits in front of the point a zero stands behind it. -/
theorem isLayout_whole {point : Int} (hPositional : -4 < point ∧ point ≤ 16) (h : ¬ point ≤ 0)
    (hWhole : digits.length ≤ point.toNat) : IsLayout digits point
      ⟨digits ++ List.replicate (point.toNat - digits.length) '0', ['0'], none⟩ where
  isWellFormed := {
    isWhole := isWhole_append_zeros hDigits hNil hHead _
    length_lt := lt_digitLimit (by simp; omega)
    isDigit := isWhole_zero.isDigit
    inexact := .inl isWhole_zero.ne_nil }
  chars_eq := by
    rw [Decimal.layout, if_pos hPositional, if_neg h, if_pos hWhole, Numeral.chars]
    simp
  value_eq := by
    refine ⟨point.toNat - digits.length + 1, -1, ?_, by omega⟩
    rw [Numeral.value, Nat.ofDigitChars_append, Nat.ofDigitChars_append,
      Nat.ofDigitChars_replicate_zero]
    simp [Nat.ofDigitChars_cons]
    ring

/-- With digits on both sides the point stands between them. -/
theorem isLayout_point {point : Int} (hPositional : -4 < point ∧ point ≤ 16) (h : ¬ point ≤ 0)
    (hWhole : ¬ digits.length ≤ point.toNat) : IsLayout digits point
      ⟨digits.take point.toNat, digits.drop point.toNat, none⟩ where
  isWellFormed := {
    isWhole := isWhole_take hDigits hNil hHead (by omega)
    length_lt := lt_digitLimit (by rw [List.length_take]; omega)
    isDigit := fun c hc => hDigits c (List.mem_of_mem_drop hc)
    inexact := .inl (by simpa using hWhole) }
  chars_eq := by
    rw [Decimal.layout, if_pos hPositional, if_neg h, if_neg hWhole, Numeral.chars,
      if_neg (by simpa using hWhole)]
    simp
  value_eq := by
    refine ⟨0, point - digits.length, ?_, by omega⟩
    rw [Numeral.value, List.take_append_drop]
    simp
    omega

/-- Elsewhere the point stands behind the first digit. -/
theorem isLayout_exponent {point : Int} (hPositional : ¬ (-4 < point ∧ point ≤ 16)) :
    IsLayout digits point ⟨digits.take 1, digits.drop 1, some (point - 1)⟩ where
  isWellFormed := {
    isWhole := isWhole_take hDigits hNil hHead (by omega)
    length_lt := lt_digitLimit (by rw [List.length_take]; omega)
    isDigit := fun c hc => hDigits c (List.mem_of_mem_drop hc)
    inexact := .inr (by simp) }
  chars_eq := by
    have hDrop : digits.drop 1 = [] ↔ digits.length ≤ 1 := List.drop_eq_nil_iff
    rw [Decimal.layout, if_neg hPositional, Numeral.chars]
    simp only [hDrop, exponentText, List.append_assoc, Option.map_some, Option.getD_some]
  value_eq := by
    have hLength := List.length_pos_iff.2 hNil
    refine ⟨0, point - digits.length, ?_, by omega⟩
    rw [Numeral.value, List.take_append_drop]
    simp
    omega

theorem exists_isLayout (point : Int) : ∃ n, IsLayout digits point n := by
  by_cases hPositional : -4 < point ∧ point ≤ 16
  · by_cases hSmall : point ≤ 0
    · exact ⟨_, isLayout_small hDigits hNil hPositional hSmall⟩
    · by_cases hWhole : digits.length ≤ point.toNat
      · exact ⟨_, isLayout_whole hDigits hNil hHead hPositional hSmall hWhole⟩
      · exact ⟨_, isLayout_point hDigits hNil hHead hPositional hSmall hWhole⟩
  · exact ⟨_, isLayout_exponent hDigits hNil hHead hPositional⟩

end

/-- Zeros may be moved between the digits of a decimal and its exponent. -/
theorem num_mul_den {t a k : Nat} {e f : Int} (h : a + e = k + f) :
    Decimal.num ⟨t * 10 ^ a, e⟩ * Decimal.den ⟨t * 10 ^ k, f⟩ =
      Decimal.num ⟨t * 10 ^ k, f⟩ * Decimal.den ⟨t * 10 ^ a, e⟩ := by
  have hPower : a + e.toNat + (-f).toNat = k + f.toNat + (-e).toNat := by omega
  simp only [Decimal.num_eq, Decimal.den_eq, Nat.mul_assoc, ← Nat.pow_add]
  rw [hPower]

/-- The written form of a decimal is a numeral of the same value. -/
theorem exists_numeral {d : Decimal} (h : d.digits ≠ 0) : ∃ n : Numeral, n.IsWellFormed ∧
    d.chars = n.chars ∧ d.num * n.value.den = n.value.num * d.den := by
  -- the zeros at the end of the digits are not written but told by the place of the point
  obtain ⟨k, hk⟩ := exists_zeros d.digits.repr.toList
  have hValue := Text.ofDigitChars_repr d.digits
  have hDigits : ∀ c ∈ d.digits.repr.toList, c.isDigit = true := fun c => Text.isDigit_of_mem_repr
  have hHead := Text.head?_repr h
  have hLayout : d.chars = Decimal.layout (Text.trimEnd (· == '0') d.digits.repr.toList)
    (d.digits.repr.toList.length + d.exponent) := rfl
  generalize Text.trimEnd (· == '0') d.digits.repr.toList = digits at hk hLayout
  rw [hk] at hValue hDigits hHead hLayout
  rw [Nat.ofDigitChars_append, Nat.ofDigitChars_replicate_zero, Nat.mul_comm] at hValue
  have hNil : digits ≠ [] := by
    rintro rfl
    rw [Nat.ofDigitChars_nil, Nat.zero_mul] at hValue
    exact h hValue.symm
  have hFirst : digits.head? ≠ some '0' := by
    obtain ⟨c, tail, rfl⟩ := List.exists_cons_of_ne_nil hNil
    exact hHead
  obtain ⟨n, hn⟩ := exists_isLayout (fun c hc => hDigits c (List.mem_append_left _ hc)) hNil hFirst
    ((digits ++ List.replicate k '0').length + d.exponent)
  obtain ⟨a, e, hNumeral, hExponent⟩ := hn.value_eq
  refine ⟨n, hn.isWellFormed, hLayout.trans hn.chars_eq, ?_⟩
  have hDecimal : d = ⟨Nat.ofDigitChars 10 digits 0 * 10 ^ k, d.exponent⟩ := by rw [hValue]
  rw [hDecimal, hNumeral]
  refine num_mul_den ?_
  rw [List.length_append, List.length_replicate] at hExponent
  omega

section

variable {limits : Limits} {rest : List Char}

/-- The shortest form of a number is read as the number. -/
theorem scalar_shortest (negative : Bool) {m : Magnitude} (h : m.units ≠ 0)
    (hRest : EndsNumber rest) :
    Reader.scalar limits (Binary64.sign negative ++ (m.shortest.chars ++ rest)) =
      .ok (.float (.finite negative m), rest) := by
  have hRange := Magnitude.inRange_shortest h
  have hDigits : m.shortest.digits ≠ 0 := Magnitude.digits_ne_zero h hRange
  obtain ⟨n, hn, hChars, hValue⟩ := exists_numeral hDigits
  have hNumeral : InRange m.units (n.value.num * unitsPerOne) n.value.den := by
    refine hRange.congr m.shortest.den_pos n.value.den_pos ?_
    rw [Nat.mul_right_comm, hValue, Nat.mul_right_comm]
  rw [hChars, Reader.scalar_chars hn hRest, Magnitude.toBinary64_of_inRange h negative hNumeral]

theorem scalar_zero (negative : Bool) (hRest : EndsNumber rest) :
    Reader.scalar limits (Binary64.sign negative ++ ('0' :: '.' :: '0' :: rest)) =
      .ok (.float (.finite negative .zero), rest) := by
  have hZero : Numeral.IsWellFormed ⟨['0'], ['0'], none⟩ :=
    ⟨isWhole_zero, lt_digitLimit (by decide), isWhole_zero.isDigit, .inl isWhole_zero.ne_nil⟩
  have hRead := @Reader.scalar_chars limits negative rest _ hZero hRest
  rwa [Decimal.toBinary64, if_pos (.inl rfl)] at hRead

/-- A number is read as it was written. -/
theorem scalar_floatChars (x : Binary64) (hRest : EndsNumber rest) :
    Reader.scalar limits (floatChars x ++ rest) = .ok (.float x, rest) := by
  cases x with
  | nan => rfl
  | infinite negative => cases negative <;> rfl
  | finite negative m =>
    have hChars : floatChars (.finite negative m) = Binary64.sign negative ++
        if m.units = 0 then ['0', '.', '0'] else m.shortest.chars := rfl
    rw [hChars, List.append_assoc]
    by_cases hZero : m.units = 0
    · obtain rfl : m = .zero := by
        obtain ⟨units, hGrid, hLt⟩ := m
        obtain rfl : units = 0 := hZero
        rfl
      rw [if_pos hZero]
      exact scalar_zero negative hRest
    · rw [if_neg hZero]
      exact scalar_shortest negative hZero hRest

end

end ReportPress.Json
