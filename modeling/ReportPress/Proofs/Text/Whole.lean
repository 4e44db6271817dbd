import Mathlib.Data.List.TakeWhile
import ReportPress.Proofs.Text.Numeral

/-!
Whole numbers in a record's text. The digits of a number stand for the number, up to the most digits
that are read. Main statement: `wholeNumeral_repr`.
-/

namespace ReportPress.Text

theorem notMem_of_forall {test : Char → Bool} {cs : List Char} {c : Char}
    (h : ∀ c ∈ cs, test c = true) (hc : test c = false) : c ∉ cs := by
  intro hMem
  rw [h c hMem] at hc
  cases hc

theorem dropWhile_ne_of_notMem {mark : Char} {cs : List Char} (h : mark ∉ cs) :
    cs.dropWhile (· != mark) = [] :=
  List.dropWhile_eq_nil_iff.2 fun _ hc => bne_iff_ne.2 fun hMark => h (hMark ▸ hc)

theorem isWhiteSpace_of_isDigit {c : Char} (h : c.isDigit = true) : isWhiteSpace c = false := by
  have hCode := toNat_of_isDigit h
  rw [← Bool.not_eq_true]
  intro hBlank
  simp [isWhiteSpace] at hBlank
  omega

theorem trim_eq_self {drop : Char → Bool} {cs : List Char} (h : ∀ c ∈ cs, drop c = false) :
    trim drop cs = cs := by
  have hKeep (part : List Char) (hPart : ∀ c ∈ part, drop c = false) :
      part.dropWhile drop = part := by
    cases part with
    | nil => rfl
    | cons c rest => rw [List.dropWhile_cons_of_neg (by simp [hPart c List.mem_cons_self])]
  rw [trim, hKeep cs h, trimEnd, hKeep cs.reverse (by simpa using h), List.reverse_reverse]

theorem dropZeroFraction_of_notMem {cs : List Char} (h : '.' ∉ cs) : dropZeroFraction cs = cs := by
  rw [dropZeroFraction, dropWhile_ne_of_notMem h]
  rfl

theorem dropUnderscores_of_notMem {cs : List Char} (h : '_' ∉ cs) :
    dropUnderscores cs = some cs := by
  have hFilter : cs.filter (· != '_') = cs :=
    List.filter_eq_self.2 fun c hc => bne_iff_ne.2 fun hScore => h (hScore ▸ hc)
  have hHead : (cs.head? == some '_') = false :=
    beq_eq_false_iff_ne.2 fun hScore => h (List.mem_of_head? hScore)
  have hLast : (cs.getLast? == some '_') = false :=
    beq_eq_false_iff_ne.2 fun hScore => h (List.mem_of_getLast? hScore)
  have hDoubled : ((cs.zip cs.tail).any fun pair => pair.1 == '_' && pair.2 == '_') = false := by
    rw [List.any_eq_false]
    rintro ⟨a, b⟩ hPair hScores
    obtain ⟨hFirst, -⟩ := Bool.and_eq_true_iff.1 hScores
    exact h (eq_of_beq hFirst ▸ (List.of_mem_zip hPair).1)
  rw [dropUnderscores]
  simp only [hHead, hLast, hDoubled, hFilter, Bool.or_false]
  rfl

section

variable {first : Char} {rest : List Char} (hDigits : ∀ c ∈ first :: rest, c.isDigit = true)
  (hZero : first ≠ '0')

include hDigits hZero

theorem startsTooLong_of_digits :
    startsTooLong (first :: rest) = decide (digitLimit < (first :: rest).length) := by
  have hMinus : first ≠ '-' := by
    rintro rfl
    exact notMem_of_forall hDigits rfl List.mem_cons_self
  have hTake : (first :: rest).takeWhile Char.isDigit = first :: rest :=
    List.takeWhile_eq_self_iff.2 hDigits
  rw [startsTooLong, List.head?_cons, if_neg (by simpa using hMinus)]
  simp only [hTake, List.head?_cons]
  simp [hZero]

theorem plainNumeral_of_digits (hShort : (first :: rest).length ≤ digitLimit) :
    plainNumeral false (first :: rest) =
      .value (Nat.ofDigitChars 10 (first :: rest) 0 : Nat) := by
  have hAll : (first :: rest).all Char.isDigit = true := List.all_eq_true.2 hDigits
  have hHead : (first :: rest).head?.any (· != '0') = true := bne_iff_ne.2 hZero
  rw [plainNumeral]
  simp only [hAll, hHead, hShort, decide_true, Bool.and_true, or_true, if_true]
  rfl

/-- Digits that start with no zero are read as their number, unless they are too many. -/
theorem wholeNumeral_of_digits {s : String} (hs : s.toList = first :: rest) :
    wholeNumeral s = if digitLimit < (first :: rest).length then .tooLong
      else .value (Nat.ofDigitChars 10 (first :: rest) 0 : Nat) := by
  have hTrim : trim isWhiteSpace (first :: rest) = first :: rest :=
    trim_eq_self fun c hc => isWhiteSpace_of_isDigit (hDigits c hc)
  have hSign {c : Char} (hc : c.isDigit = false) : first ≠ c := by
    rintro rfl
    exact notMem_of_forall hDigits hc List.mem_cons_self
  have hZeros : dropLeadingZeros (first :: rest) = some (first :: rest) := by
    simp [dropLeadingZeros, hDigits first List.mem_cons_self]
  have hPoint : dropZeroFraction (first :: rest) = first :: rest :=
    dropZeroFraction_of_notMem (notMem_of_forall hDigits rfl)
  have hScore : dropUnderscores (first :: rest) = some (first :: rest) :=
    dropUnderscores_of_notMem (notMem_of_forall hDigits rfl)
  -- none of the steps that tidy a numeral up has anything to do with plain digits
  unfold wholeNumeral
  rw [hs, startsTooLong_of_digits hDigits hZero, hTrim]
  by_cases hLong : digitLimit < (first :: rest).length
  · rw [if_pos (decide_eq_true hLong), if_pos hLong]
  · rw [if_neg (by simpa using hLong), if_neg hLong]
    split
    rename_i hUnsigned
    split at hUnsigned
    · exact absurd (List.cons.inj ‹_›).1 (hSign rfl)
    · exact absurd (List.cons.inj ‹_›).1 (hSign rfl)
    · exact absurd (List.cons.inj ‹_›).1 (hSign rfl)
    · obtain ⟨rfl, rfl⟩ := Prod.mk.inj hUnsigned
      rw [Option.bind_some, hZeros]
      simp only [hPoint, hScore, Option.getD_some]
      split
      · exact absurd (List.cons.inj ‹_›).1 (hSign rfl)
      · exact plainNumeral_of_digits hDigits hZero (Nat.le_of_not_lt hLong)

end

theorem wholeNumeral_repr (n : Nat) :
    wholeNumeral n.repr = if digitLimit < n.repr.length then .tooLong else .value n := by
  by_cases hZero : n = 0
  · subst hZero
    rfl
  · obtain ⟨first, rest, hs⟩ := List.exists_cons_of_ne_nil (repr_ne_nil n)
    have hDigits : ∀ c ∈ first :: rest, c.isDigit = true :=
      fun c hc => isDigit_of_mem_repr (hs ▸ hc)
    have hHead : first ≠ '0' := by simpa [hs] using head?_repr hZero
    rw [wholeNumeral_of_digits hDigits hHead hs, ← hs, ofDigitChars_repr, length_repr_toList]

end ReportPress.Text
