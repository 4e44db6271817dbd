import ReportPress.Text.Numeral

/-!
What is written as a numeral is read as the same number: whole numbers with their thousands apart,
and counts of decimal places with their point. Main statements: `filter_groupThousands`, taking the
commas out undoes putting them in, and `unsignedDecimal?_placeChars`.
-/

namespace ReportPress.Text

-- powers are those of natural numbers, also where powers in monoids are known
attribute [local instance (2000)] instPowNat

theorem isDigit_of_mem_repr {n : Nat} {c : Char} (h : c ∈ n.repr.toList) : c.isDigit = true := by
  rw [Nat.toList_repr] at h
  exact Nat.isDigit_of_mem_toDigits (by omega) (by omega) h

theorem repr_ne_nil (n : Nat) : n.repr.toList ≠ [] := by
  rw [Nat.toList_repr]
  exact Nat.toDigits_ne_nil

theorem length_repr_toList (n : Nat) : n.repr.toList.length = n.repr.length := by
  rw [String.length_toList]

theorem intChars_eq (n : Int) : intChars n = Binary64.sign (n < 0) ++ n.natAbs.repr.toList := by
  rw [intChars, Binary64.sign]
  split <;> simp_all

theorem length_intChars (n : Int) :
    (intChars n).length = n.natAbs.repr.length + if n < 0 then 1 else 0 := by
  rw [intChars, ← length_repr_toList]
  split <;> rfl

@[simp] theorem ofDigitChars_repr (n : Nat) : Nat.ofDigitChars 10 n.repr.toList 0 = n := by
  rw [Nat.toList_repr, Nat.ofDigitChars_ten_toDigits]

/-- Only zero is written with a zero in front. -/
theorem head?_repr {n : Nat} (h : n ≠ 0) : n.repr.toList.head? ≠ some '0' := by
  rw [Nat.toList_repr]
  induction n using Nat.strongRecOn with
  | ind n ih =>
    rcases Nat.lt_or_ge n 10 with hSmall | hLarge
    · rw [Nat.toDigits_of_lt_base hSmall, List.head?_cons]
      intro hZero
      have hCode := congrArg Char.toNat (Option.some.inj hZero)
      rw [Nat.toNat_digitChar_of_lt_ten hSmall] at hCode
      exact h (Nat.add_left_cancel hCode)
    · have hFront := ih (n / 10) (by omega) (by omega)
      obtain ⟨c, tail, hTail⟩ := List.exists_cons_of_ne_nil (@Nat.toDigits_ne_nil (n / 10) 10)
      rw [hTail] at hFront
      rw [Nat.toDigits_of_base_le (by omega) hLarge, hTail]
      exact hFront

theorem toNat_of_isDigit {c : Char} (h : c.isDigit = true) : 48 ≤ c.toNat ∧ c.toNat ≤ 57 := by
  simp only [Char.isDigit, ge_iff_le, Bool.and_eq_true, decide_eq_true_eq] at h
  exact h

theorem digitValue?_of_isDigit {c : Char} (h : c.isDigit = true) :
    digitValue? c = some (c.toNat - 48) := by
  have hCode := toNat_of_isDigit h
  rw [digitValue?, digitZeros, List.find?_cons_of_pos, Option.map_some]
  simp only [Bool.and_eq_true, decide_eq_true_eq]
  omega

theorem digitChar_of_isDigit {c : Char} (h : c.isDigit = true) : (c.toNat - 48).digitChar = c := by
  have hCode := toNat_of_isDigit h
  rw [← Char.toNat_inj, Nat.toNat_digitChar_of_lt_ten (by omega)]
  omega

theorem isDigit_of_ascii {c : Char} (h : c.isDigit = true) : isDigit c = true := by
  rw [isDigit, digitValue?_of_isDigit h, Option.isSome_some]

/-- The ASCII digit of the same value; other characters stay. -/
def plainDigit (c : Char) : Char :=
  match digitValue? c with
  | some d => d.digitChar
  | none => c

theorem plainDigit_of_isDigit {c : Char} (h : c.isDigit = true) : plainDigit c = c := by
  rw [plainDigit, digitValue?_of_isDigit h]
  exact digitChar_of_isDigit h

theorem isDigit_plainDigit (c : Char) : (plainDigit c).isDigit = isDigit c := by
  rw [plainDigit, isDigit]
  cases hValue : digitValue? c with
  | some d => simp [Nat.isDigit_digitChar, digitValue?_lt hValue]
  | none =>
    rw [Option.isSome_none, ← Bool.not_eq_true]
    intro hAscii
    rw [digitValue?_of_isDigit hAscii] at hValue
    cases hValue

section

variable {digits : List Char}

theorem isDigit_of_mem_map (h : ∀ c ∈ digits, isDigit c = true) :
    ∀ c ∈ digits.map plainDigit, c.isDigit = true := by
  intro c hc
  obtain ⟨d, hd, rfl⟩ := List.mem_map.1 hc
  rw [isDigit_plainDigit]
  exact h d hd

/-- Digits of any script have the value of the ASCII digits in their place. -/
theorem ofDigitChars_map (h : ∀ c ∈ digits, isDigit c = true) :
    Nat.ofDigitChars 10 (digits.map plainDigit) 0 = figureValue digits := by
  have hChars : (digits.filterMap digitValue?).map Nat.digitChar = digits.map plainDigit := by
    induction digits with
    | nil => rfl
    | cons c rest ih =>
      obtain ⟨d, hd⟩ := Option.isSome_iff_exists.1 (h c List.mem_cons_self)
      have hc : plainDigit c = d.digitChar := by rw [plainDigit, hd]
      rw [List.filterMap_cons, hd, List.map_cons, List.map_cons, hc,
        ih fun c hMem => h c (List.mem_cons_of_mem _ hMem)]
  rw [figureValue, hChars]

theorem figureValue_eq (h : ∀ c ∈ digits, c.isDigit = true) :
    figureValue digits = Nat.ofDigitChars 10 digits 0 := by
  have hPlain : digits.map plainDigit = digits :=
    (List.map_congr_left fun c hc => plainDigit_of_isDigit (h c hc)).trans (List.map_id _)
  rw [← ofDigitChars_map fun c hc => isDigit_of_ascii (h c hc), hPlain]

end

theorem ofDigitChars_lt {digits : List Nat} (h : ∀ d ∈ digits, d < 10) (value : Nat) :
    Nat.ofDigitChars 10 (digits.map Nat.digitChar) value < (value + 1) * 10 ^ digits.length := by
  induction digits generalizing value with
  | nil => simp
  | cons d rest ih =>
    have hDigit := h d List.mem_cons_self
    rw [List.map_cons, Nat.ofDigitChars_cons_digitChar_of_lt_ten hDigit, List.length_cons]
    calc
      _ < (10 * value + d + 1) * 10 ^ rest.length :=
        ih (fun d hd => h d (List.mem_cons_of_mem _ hd)) _
      _ ≤ (value + 1) * 10 * 10 ^ rest.length := Nat.mul_le_mul_right _ (by omega)
      _ = (value + 1) * 10 ^ (rest.length + 1) := by
        rw [Nat.mul_assoc, ← Nat.pow_succ']

/-- The value of characters has no more digits than there are characters. -/
theorem figureValue_lt (cs : List Char) : figureValue cs < 10 ^ cs.length := by
  have hDigits : ∀ d ∈ cs.filterMap digitValue?, d < 10 := by
    intro d hd
    obtain ⟨c, -, hc⟩ := List.mem_filterMap.1 hd
    exact digitValue?_lt hc
  have hValue := ofDigitChars_lt hDigits 0
  rw [Nat.zero_add, Nat.one_mul] at hValue
  exact Nat.lt_of_lt_of_le hValue
    (Nat.pow_le_pow_right (by decide) (List.length_filterMap_le _ _))

theorem length_repr_figureValue {cs : List Char} {bound : Nat} (hBound : 0 < bound)
    (h : cs.length ≤ bound) : (figureValue cs).repr.length ≤ bound :=
  (Nat.length_repr_le_iff hBound).2
    (Nat.lt_of_lt_of_le (figureValue_lt cs) (Nat.pow_le_pow_right (by decide) h))

/-- The value of digits is written in no more digits. -/
theorem length_repr_ofDigitChars {cs : List Char} {bound : Nat}
    (hDigits : ∀ c ∈ cs, c.isDigit = true) (hBound : 0 < bound) (h : cs.length ≤ bound) :
    (Nat.ofDigitChars 10 cs 0).repr.length ≤ bound := by
  rw [← figureValue_eq hDigits]
  exact length_repr_figureValue hBound h

section

variable {digits : List Char}

/-- Taking the commas out undoes putting them in. -/
theorem filter_groupThousands (h : ∀ c ∈ digits, c.isDigit = true) :
    (groupThousands digits).filter (· != ',') = digits := by
  have hPlain : ∀ part : List Char, (∀ c ∈ part, c.isDigit = true) →
      part.filter (· != ',') = part := by
    intro part hPart
    refine List.filter_eq_self.2 fun c hc => ?_
    have := hPart c hc
    simp only [bne_iff_ne, ne_eq]
    rintro rfl
    exact absurd this (by decide)
  induction digits using groupThousands.induct with
  | case1 digits hShort => rw [groupThousands_of_length_le hShort, hPlain digits h]
  | case2 digits hLong ih =>
    have hFront := ih fun c hc => h c (List.mem_of_mem_take hc)
    have hLast := hPlain (digits.drop (digits.length - 3)) fun c hc => h c (List.mem_of_mem_drop hc)
    rw [groupThousands, if_neg hLong, List.filter_append, hFront,
      List.filter_cons_of_neg (by decide), hLast, List.take_append_drop]

theorem mem_groupThousands {c : Char} (h : c ∈ groupThousands digits) : c = ',' ∨ c ∈ digits := by
  induction digits using groupThousands.induct with
  | case1 digits hShort =>
    rw [groupThousands_of_length_le hShort] at h
    exact .inr h
  | case2 digits hLong ih =>
    rw [groupThousands, if_neg hLong, List.mem_append, List.mem_cons] at h
    rcases h with hFront | rfl | hLast
    · exact (ih hFront).imp id List.mem_of_mem_take
    · exact .inl rfl
    · exact .inr (List.mem_of_mem_drop hLast)

theorem groupThousands_ne_nil (h : digits ≠ []) : groupThousands digits ≠ [] := by
  rw [groupThousands]
  split
  · exact h
  · simp

end

theorem length_fraction {places count : Nat} (hPlaces : 0 < places) :
    ((count % 10 ^ places).repr.toList).length ≤ places := by
  rw [length_repr_toList, Nat.length_repr_le_iff hPlaces]
  exact Nat.mod_lt _ (Nat.pow_pos (by omega))

theorem takeWhile_append_stop {p : Char → Bool} {part : List Char} {stop : Char}
    (rest : List Char) (hPart : ∀ c ∈ part, p c = true) (hStop : p stop = false) :
    (part ++ stop :: rest).takeWhile p = part := by
  rw [List.takeWhile_append_of_pos hPart, List.takeWhile_cons_of_neg (by simp [hStop]),
    List.append_nil]

theorem dropWhile_append_stop {p : Char → Bool} {part : List Char} {stop : Char}
    (rest : List Char) (hPart : ∀ c ∈ part, p c = true) (hStop : p stop = false) :
    (part ++ stop :: rest).dropWhile p = stop :: rest := by
  rw [List.dropWhile_append_of_pos hPart, List.dropWhile_cons_of_neg (by simp [hStop])]

section

variable {whole fraction rest : List Char} (hWhole : ∀ c ∈ whole, c.isDigit = true)
include hWhole

theorem unsignedDecimal?_digits (hSome : whole ≠ []) :
    unsignedDecimal? whole = some ⟨Nat.ofDigitChars 10 whole 0, 0⟩ := by
  have hTake : whole.takeWhile Char.isDigit = whole := by
    rw [← List.append_nil whole, List.takeWhile_append_of_pos hWhole, List.takeWhile_nil]
  have hDrop : whole.dropWhile Char.isDigit = [] := by
    rw [← List.append_nil whole, List.dropWhile_append_of_pos hWhole, List.dropWhile_nil]
  simp only [unsignedDecimal?, hTake, hDrop, exponentPart?]
  simp [hSome]

variable (hFraction : ∀ c ∈ fraction, c.isDigit = true)
include hFraction

/-- The digits behind a point are the places of the number. -/
theorem unsignedDecimal?_point (hSome : whole ++ fraction ≠ []) :
    unsignedDecimal? (whole ++ '.' :: fraction) =
      some ⟨Nat.ofDigitChars 10 (whole ++ fraction) 0, -fraction.length⟩ := by
  have hPoint : Char.isDigit '.' = false := by decide
  have hTake : fraction.takeWhile Char.isDigit = fraction := by
    rw [← List.append_nil fraction, List.takeWhile_append_of_pos hFraction, List.takeWhile_nil]
  have hDrop : fraction.dropWhile Char.isDigit = [] := by
    rw [← List.append_nil fraction, List.dropWhile_append_of_pos hFraction, List.dropWhile_nil]
  simp only [unsignedDecimal?, takeWhile_append_stop _ hWhole hPoint,
    dropWhile_append_stop _ hWhole hPoint, hTake, hDrop, exponentPart?]
  simp_all

/-- A second point makes it no number. -/
theorem unsignedDecimal?_points :
    unsignedDecimal? (whole ++ '.' :: (fraction ++ '.' :: rest)) = none := by
  have hPoint : Char.isDigit '.' = false := by decide
  simp only [unsignedDecimal?, takeWhile_append_stop _ hWhole hPoint,
    dropWhile_append_stop _ hWhole hPoint, takeWhile_append_stop _ hFraction hPoint,
    dropWhile_append_stop _ hFraction hPoint, exponentPart?]
  simp

end

/-- A count of decimal places is read as what it counts. -/
theorem unsignedDecimal?_placeChars {places : Nat} (hPlaces : 0 < places) (count : Nat) :
    unsignedDecimal? (Binary64.placeChars places count) = some ⟨count, -places⟩ := by
  have hWhole : ∀ c ∈ (count / 10 ^ places).repr.toList, c.isDigit = true :=
    fun c => isDigit_of_mem_repr
  have hLength := @length_fraction places count hPlaces
  rw [Binary64.placeChars]
  generalize hDigits : List.replicate (places - (count % 10 ^ places).repr.toList.length) '0' ++
    (count % 10 ^ places).repr.toList = fraction
  have hFraction : ∀ c ∈ fraction, c.isDigit = true := by
    intro c hc
    rw [← hDigits, List.mem_append] at hc
    rcases hc with hZero | hDigit
    · rw [(List.mem_replicate.1 hZero).2]
      decide
    · exact isDigit_of_mem_repr hDigit
  have hPlacesEq : fraction.length = places := by
    rw [← hDigits, List.length_append, List.length_replicate]
    omega
  have hValue : Nat.ofDigitChars 10 ((count / 10 ^ places).repr.toList ++ fraction) 0 = count := by
    rw [Nat.ofDigitChars_append, ofDigitChars_repr, ← hDigits, Nat.ofDigitChars_append,
      Nat.ofDigitChars_replicate_zero, Nat.ofDigitChars_eq_ofDigitChars_zero, ofDigitChars_repr,
      ← Nat.mul_assoc, ← Nat.pow_add, Nat.add_sub_cancel' hLength, Nat.div_add_mod]
  have hSome : (count / 10 ^ places).repr.toList ++ fraction ≠ [] :=
    fun h => repr_ne_nil _ (List.append_eq_nil_iff.1 h).1
  rw [unsignedDecimal?_point hWhole hFraction hSome, hValue, hPlacesEq]

end ReportPress.Text
