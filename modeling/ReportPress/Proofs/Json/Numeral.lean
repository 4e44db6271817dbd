import ReportPress.Json.Reader
import ReportPress.Proofs.Json.Throughout

/-!
Numbers in JSON text. A numeral has a whole part, which starts with a zero only if that is all of it,
and may have a fraction and an exponent; it is read up to what cannot belong to it. Main statements:
`scalar_intChars` and `scalar_chars`.
-/

namespace ReportPress.Json

/-- The whole part of a numeral: digits, and no zero in front of others. -/
structure IsWhole (whole : List Char) : Prop where
  isDigit : ∀ c ∈ whole, c.isDigit = true
  ne_nil : whole ≠ []
  eq_zero : whole.head? = some '0' → whole = ['0']

theorem isWhole_zero : IsWhole ['0'] :=
  ⟨List.forall_mem_singleton.2 rfl, List.cons_ne_nil _ _, fun _ => rfl⟩

theorem isWhole_repr (n : Nat) : IsWhole n.repr.toList where
  isDigit _ hc := Text.isDigit_of_mem_repr hc
  ne_nil := Text.repr_ne_nil n
  eq_zero hHead := by
    by_cases h : n = 0
    · rw [h, Nat.toList_repr, Nat.toDigits_zero]
    · exact absurd hHead (Text.head?_repr h)

/-- What follows digits. -/
def EndsDigits (rest : List Char) : Prop := ∀ c ∈ rest.head?, c.isDigit = false

/-- What follows a number. -/
def EndsNumber (rest : List Char) : Prop :=
  ∀ c ∈ rest.head?, c.isDigit = false ∧ c ≠ '.' ∧ c ≠ 'e' ∧ c ≠ 'E'

theorem EndsNumber.endsDigits {rest : List Char} (h : EndsNumber rest) : EndsDigits rest :=
  fun c hc => (h c hc).1

/-- The exponent of a numeral, as it is written. -/
def exponentText (power : Int) : List Char :=
  (if power < 0 then ['e', '-'] else ['e', '+']) ++
    ((if power.natAbs < 10 then ['0'] else []) ++ power.natAbs.repr.toList)

/-- The digits of an exponent, at least two. -/
def exponentDigits (n : Nat) : List Char := (if n < 10 then ['0'] else []) ++ n.repr.toList

theorem exponentText_eq (power : Int) : exponentText power =
    (if power < 0 then ['e', '-'] else ['e', '+']) ++ exponentDigits power.natAbs := rfl

theorem isDigit_exponentDigits (n : Nat) : ∀ c ∈ exponentDigits n, c.isDigit = true := by
  unfold exponentDigits
  split
  · exact List.forall_mem_cons.2 ⟨rfl, fun c => Text.isDigit_of_mem_repr⟩
  · exact fun c => Text.isDigit_of_mem_repr

theorem exponentDigits_ne_nil (n : Nat) : exponentDigits n ≠ [] :=
  List.append_ne_nil_of_right_ne_nil _ (Text.repr_ne_nil n)

theorem ofDigitChars_exponentDigits (n : Nat) : Nat.ofDigitChars 10 (exponentDigits n) 0 = n := by
  unfold exponentDigits
  split
  · rw [List.singleton_append, Nat.ofDigitChars_cons]
    exact Text.ofDigitChars_repr n
  · exact Text.ofDigitChars_repr n

/-- A numeral that has a fraction or an exponent. -/
structure Numeral where
  whole : List Char
  places : List Char
  power? : Option Int

namespace Numeral

/-- The numeral as it is written. -/
def chars (n : Numeral) : List Char :=
  n.whole ++ ((if n.places = [] then [] else '.' :: n.places) ++
    (n.power?.map exponentText).getD [])

/-- The decimal that a numeral stands for. -/
def value (n : Numeral) : Decimal :=
  ⟨Nat.ofDigitChars 10 (n.whole ++ n.places) 0, n.power?.getD 0 - n.places.length⟩

/-- A numeral that is read as a number with a fraction. -/
structure IsWellFormed (n : Numeral) : Prop where
  isWhole : IsWhole n.whole
  length_lt : n.whole.length < Text.digitLimit
  isDigit : ∀ c ∈ n.places, c.isDigit = true
  inexact : n.places ≠ [] ∨ n.power? ≠ none

end Numeral

namespace Limits

variable {limits : Limits} {negative : Bool}

theorem isTooLong_of_lt {isWhole : Bool} {digits : Nat} (h : digits < Text.digitLimit) :
    limits.isTooLong isWhole negative digits = false := by
  cases limits with
  | documents => simp [isTooLong, Nat.le_of_lt h]
  | records =>
    rw [isTooLong, decide_eq_false_iff_not, Nat.not_lt]
    split <;> omega

/-- Fewer digits are not too many where more are not. -/
theorem isTooLong_mono {isWhole : Bool} {digits fewer : Nat} (hLe : fewer ≤ digits)
    (h : limits.isTooLong isWhole negative digits = false) :
    limits.isTooLong isWhole negative fewer = false := by
  cases limits with
  | documents =>
    simp only [isTooLong, Bool.and_eq_false_imp, decide_eq_false_iff_not, Nat.not_lt] at h ⊢
    exact fun hWhole => Nat.le_trans hLe (h hWhole)
  | records =>
    rw [isTooLong, decide_eq_false_iff_not, Nat.not_lt] at h ⊢
    omega

/-- A whole number is not too long to be read. -/
def Takes (limits : Limits) : Json → Prop
  | .int n => limits.isTooLong true (n < 0) n.natAbs.repr.length = false
  | _ => True

theorem takes_documents_iff {value : Json} : documents.Takes value ↔ HasFewDigits value := by
  cases value with
  | int n => simp [Takes, isTooLong, HasFewDigits]
  | _ => exact .rfl

theorem takes_records_iff {value : Json} : records.Takes value ↔ HasShortNumerals value := by
  cases value with
  | int n => simp [Takes, isTooLong, HasShortNumerals, Text.length_intChars]
  | _ => exact .rfl

end Limits

namespace Reader

section

variable {digits rest : List Char}

theorem takeWhile_digits (hDigits : ∀ c ∈ digits, c.isDigit = true) (hRest : EndsDigits rest) :
    (digits ++ rest).takeWhile Char.isDigit = digits := by
  rw [List.takeWhile_append_of_pos hDigits]
  cases rest with
  | nil => simp
  | cons c rest => rw [List.takeWhile_cons_of_neg (by simp [hRest c rfl]), List.append_nil]

theorem dropWhile_digits (hDigits : ∀ c ∈ digits, c.isDigit = true) (hRest : EndsDigits rest) :
    (digits ++ rest).dropWhile Char.isDigit = rest := by
  rw [List.dropWhile_append_of_pos hDigits]
  cases rest with
  | nil => rfl
  | cons c rest => rw [List.dropWhile_cons_of_neg (by simp [hRest c rfl])]

theorem fraction_of_ends (hRest : ∀ c ∈ rest.head?, c ≠ '.') : fraction rest = ([], rest) := by
  unfold fraction
  split
  · exact absurd rfl (hRest '.' rfl)
  · rfl

theorem fraction_point (hDigits : ∀ c ∈ digits, c.isDigit = true) (hNil : digits ≠ [])
    (hRest : EndsDigits rest) : fraction ('.' :: (digits ++ rest)) = (digits, rest) := by
  rw [fraction]
  simp only [takeWhile_digits hDigits hRest, dropWhile_digits hDigits hRest]
  rw [if_neg (by simpa using hNil)]

theorem exponent_of_ends (hRest : EndsNumber rest) : exponent rest = (none, rest) := by
  cases rest with
  | nil => rfl
  | cons c rest =>
    obtain ⟨-, -, hLower, hUpper⟩ := hRest c rfl
    unfold exponent
    exact if_neg (by simp [hLower, hUpper])

theorem exponent_exponentText (power : Int) (hRest : EndsDigits rest) :
    exponent (exponentText power ++ rest) = (some power, rest) := by
  have hTake := takeWhile_digits (isDigit_exponentDigits power.natAbs) hRest
  have hDrop := dropWhile_digits (isDigit_exponentDigits power.natAbs) hRest
  have hNil := exponentDigits_ne_nil power.natAbs
  have hValue := ofDigitChars_exponentDigits power.natAbs
  rw [exponentText_eq]
  by_cases hSign : power < 0
  · have hPower : -(power.natAbs : Int) = power := by omega
    rw [if_pos hSign]
    simp only [exponent, List.cons_append, List.nil_append, hTake, hDrop, hValue, hPower]
    simp [hNil]
  · have hPower : (power.natAbs : Int) = power := by omega
    rw [if_neg hSign]
    simp only [exponent, List.cons_append, List.nil_append, hTake, hDrop, hValue, hPower]
    simp [hNil]

end

section

variable {limits : Limits} {negative : Bool} {whole rest : List Char}

theorem numberAfter_whole (hLength : limits.isTooLong true negative whole.length = false)
    (hRest : EndsNumber rest) : numberAfter limits negative whole rest =
      .ok (.int (if negative then -(Nat.ofDigitChars 10 whole 0 : Int)
        else Nat.ofDigitChars 10 whole 0), rest) := by
  have hPoint : ∀ c ∈ rest.head?, c ≠ '.' := fun c hc => (hRest c hc).2.1
  rw [numberAfter, fraction_of_ends hPoint]
  simp only [exponent_of_ends hRest]
  simp [hLength]

/-- An exponent is no part of the digits in front of it. -/
theorem ends_exponent (power? : Option Int) (hRest : EndsNumber rest) :
    ∀ c ∈ ((power?.map exponentText).getD [] ++ rest).head?, c.isDigit = false ∧ c ≠ '.' := by
  intro c hc
  cases power? with
  | none => exact ⟨(hRest c hc).1, (hRest c hc).2.1⟩
  | some power =>
    have hMark : c = 'e' := by
      rw [Option.map_some, Option.getD_some, exponentText] at hc
      split at hc <;> exact (Option.some.inj hc).symm
    rw [hMark]
    decide

/-- A number with a fraction or an exponent is that of its decimal. -/
theorem numberAfter_chars {n : Numeral} (h : n.IsWellFormed) (hRest : EndsNumber rest) :
    numberAfter limits negative n.whole
        ((if n.places = [] then [] else '.' :: n.places) ++
          ((n.power?.map exponentText).getD [] ++ rest)) =
      .ok (.float (n.value.toBinary64 negative), rest) := by
  obtain ⟨whole, places, power?⟩ := n
  obtain ⟨-, hLength, hDigits, hInexact⟩ := h
  dsimp only at hLength hDigits hInexact ⊢
  have hExponent : exponent ((power?.map exponentText).getD [] ++ rest) = (power?, rest) := by
    cases power? with
    | none => exact exponent_of_ends hRest
    | some power => exact exponent_exponentText power hRest.endsDigits
  have hEnds := ends_exponent power? hRest
  have hFraction : fraction ((if places = [] then [] else '.' :: places) ++
      ((power?.map exponentText).getD [] ++ rest)) =
        (places, (power?.map exponentText).getD [] ++ rest) := by
    by_cases hNil : places = []
    · rw [if_pos hNil, List.nil_append, fraction_of_ends fun c hc => (hEnds c hc).2, hNil]
    · rw [if_neg hNil, List.cons_append, fraction_point hDigits hNil fun c hc => (hEnds c hc).1]
  rw [numberAfter, hFraction]
  simp only [hExponent]
  have hPart : (places.isEmpty && power?.isNone) = false := by
    cases power? with
    | none => simpa using hInexact
    | some power => simp
  simp [hPart, Limits.isTooLong_of_lt hLength, Numeral.value]

theorem number_append (hWhole : IsWhole whole) (hRest : EndsDigits rest) :
    number limits (Binary64.sign negative ++ (whole ++ rest)) =
      numberAfter limits negative whole rest := by
  have hTake := takeWhile_digits hWhole.isDigit hRest
  have hDrop := dropWhile_digits hWhole.isDigit hRest
  obtain ⟨c, tail, rfl⟩ := List.exists_cons_of_ne_nil hWhole.ne_nil
  have hDigit := hWhole.isDigit c List.mem_cons_self
  have hSign : c ≠ '-' := by
    rintro rfl
    exact absurd hDigit (by decide)
  rw [List.cons_append] at hTake hDrop ⊢
  -- a zero in front is the whole part, all other digits start one
  by_cases hZero : c = '0'
  · obtain rfl := hZero
    obtain rfl : tail = [] := (List.cons.inj (hWhole.eq_zero rfl)).2
    cases negative <;> simp [number, Binary64.sign]
  · cases negative <;> simp [number, Binary64.sign, hSign, hDigit, hTake, hDrop]

/-- What starts with a digit is no name. -/
theorem scalar_of_isDigit {c : Char} (h : c.isDigit = true) :
    scalar limits (Binary64.sign negative ++ c :: rest) =
      number limits (Binary64.sign negative ++ c :: rest) := by
  have hLetter : ∀ d : Char, d.isDigit = false → c ≠ d := by
    rintro d hd rfl
    rw [h] at hd
    cases hd
  unfold scalar
  split
  all_goals first
    | rfl
    | rename_i hText
      cases negative with
      | false => exact absurd (List.cons.inj hText).1 (hLetter _ (by decide))
      | true =>
        have hTail := (List.cons.inj hText).2
        first
          | exact absurd (List.cons.inj hText).1 (by decide)
          | exact absurd (List.cons.inj hTail).1 (hLetter _ (by decide))

theorem scalar_append (hWhole : IsWhole whole) (hRest : EndsDigits rest) :
    scalar limits (Binary64.sign negative ++ (whole ++ rest)) =
      numberAfter limits negative whole rest := by
  rw [← number_append hWhole hRest]
  obtain ⟨c, tail, rfl⟩ := List.exists_cons_of_ne_nil hWhole.ne_nil
  exact scalar_of_isDigit (hWhole.isDigit c List.mem_cons_self)

theorem scalar_intChars {n : Int} (h : limits.isTooLong true (n < 0) n.natAbs.repr.length = false)
    (hRest : EndsNumber rest) : scalar limits (Text.intChars n ++ rest) = .ok (.int n, rest) := by
  have hLength : limits.isTooLong true (n < 0) n.natAbs.repr.toList.length = false := by
    rwa [Text.length_repr_toList]
  rw [Text.intChars_eq, List.append_assoc, scalar_append (isWhole_repr _) hRest.endsDigits,
    numberAfter_whole hLength hRest, Text.ofDigitChars_repr]
  have hSigned : (if n < 0 then -(n.natAbs : Int) else n.natAbs) = n := by
    split <;> omega
  simp only [decide_eq_true_eq, hSigned]

theorem scalar_chars {n : Numeral} (h : n.IsWellFormed) (hRest : EndsNumber rest) :
    scalar limits (Binary64.sign negative ++ (n.chars ++ rest)) =
      .ok (.float (n.value.toBinary64 negative), rest) := by
  rw [Numeral.chars, List.append_assoc, List.append_assoc, scalar_append h.isWhole,
    numberAfter_chars h hRest]
  intro c hc
  split at hc
  · exact (ends_exponent n.power? hRest c hc).1
  · obtain rfl := Option.some.inj hc
    decide

end

end Reader

end ReportPress.Json
