import ReportPress.Proofs.Binary64.Decimal
import ReportPress.Proofs.Binary64.Places
import ReportPress.Proofs.Markdown.Statistics
import ReportPress.Proofs.Text.Numeral

/-!
The text of a cost, read and written again. Main statements: `isAmount_of_costText`, a finite cost
without a minus sign is written as an amount, and `IsAmount.costText_costOf`, the cost that is read
from an amount is written as the same amount.
-/

namespace ReportPress

/-- A cost that is a number of US dollars. -/
def Cost.isFinite : Cost → Bool
  | .whole _ => true
  | .exact amount => amount.isFinite

namespace Statistics

section

variable {places count : Nat}

theorem mem_placeChars {c : Char} (h : c ∈ Binary64.placeChars places count) :
    c = '.' ∨ c.isDigit = true := by
  rw [Binary64.placeChars, List.mem_append, List.mem_cons, List.mem_append] at h
  rcases h with hWhole | hPoint | hZero | hFraction
  · exact .inr (Text.isDigit_of_mem_repr hWhole)
  · exact .inl hPoint
  · rw [(List.mem_replicate.1 hZero).2]
    exact .inr rfl
  · exact .inr (Text.isDigit_of_mem_repr hFraction)

theorem placeChars_ne_nil : Binary64.placeChars places count ≠ [] := by
  simp [Binary64.placeChars]

theorem isCostPart_of_mem_placeChars {c : Char} (h : c ∈ Binary64.placeChars places count) :
    isCostPart c = true := by
  rcases mem_placeChars h with rfl | hDigit
  · rfl
  · rw [isCostPart, Text.isDigit_of_ascii hDigit, Bool.or_true]

theorem costOf_eq (hPlaces : 0 < places) : costOf (Binary64.placeChars places count) =
    Decimal.toBinary64 false ⟨count, -places⟩ := by
  have hPlain : (Binary64.placeChars places count).map Text.plainDigit =
      Binary64.placeChars places count := by
    refine (List.map_congr_left fun c hc => ?_).trans (List.map_id _)
    rcases mem_placeChars hc with rfl | h
    · rfl
    · exact Text.plainDigit_of_isDigit h
  rw [costOf_eq_plain, hPlain, Text.unsignedDecimal?_placeChars hPlaces]
  rfl

end

theorem isFinite_of_ofInt? {n : Int} {x : Binary64} (h : Binary64.ofInt? n = some x) :
    x.isFinite = true := by
  rw [Binary64.ofInt?, Option.map_eq_some_iff] at h
  obtain ⟨m, -, rfl⟩ := h
  rfl

theorem isFinite_of_nearest? {cost : Cost} {x : Binary64} (hFinite : cost.isFinite = true)
    (h : cost.nearest? = some x) : x.isFinite = true := by
  cases cost with
  | whole n => exact isFinite_of_ofInt? h
  | exact amount => exact Option.some.inj h ▸ hFinite

/-- The text of a number that is not negative, with the places of a cost. -/
def IsAmount (amount : List Char) : Prop :=
  ∃ m : Magnitude, amount = Binary64.placeChars costPlaces (m.inPlaces costPlaces)

/-- A finite cost without a minus sign is written as an amount. -/
theorem isAmount_of_costText {cost : Cost} {amount : String} (hFinite : cost.isFinite = true)
    (hText : costText cost = .ok amount) (hSign : '-' ∉ amount.toList) :
    IsAmount amount.toList := by
  rw [costText] at hText
  cases hNearest : cost.nearest? with
  | none => simp [hNearest] at hText
  | some x =>
    rw [hNearest] at hText
    obtain rfl := Except.ok.inj hText
    have hFinite := isFinite_of_nearest? hFinite hNearest
    cases x with
    | nan => simp [Binary64.isFinite] at hFinite
    | infinite negative => simp [Binary64.isFinite] at hFinite
    | finite negative m =>
      rw [Binary64.fixed, String.toList_ofList] at hSign ⊢
      cases negative with
      | true => exact absurd (by simp [Binary64.sign]) hSign
      | false => exact ⟨m, rfl⟩

theorem costOf_of_nearest? {count : Nat} {m : Magnitude} (hLength : count.repr.length ≤ 400)
    (hNearest : Magnitude.nearest? (count * unitsPerOne) (10 ^ 4) = some m) (hZero : count ≠ 0) :
    costOf (Binary64.placeChars 4 count) = .finite false m := by
  have hExponent : (-(4 : Nat) : Int) = .negSucc 3 := rfl
  have hPoint : Decimal.point ⟨count, .negSucc 3⟩ = .negSucc 3 + (count.repr.length : Int) := rfl
  rw [costOf_eq (by omega), hExponent, Decimal.toBinary64_eq false hZero (by omega) (by omega)]
  simp only [Decimal.num, Decimal.den, hNearest]
  rfl

theorem costOf_zero : costOf (Binary64.placeChars 4 0) = .finite false .zero := by
  rw [costOf_eq (by omega), Decimal.toBinary64, if_pos (.inl rfl)]

theorem nearest?_zero {den : Nat} (h : 0 < den) :
    Magnitude.nearest? (0 * unitsPerOne) den = some .zero := by
  have hRound := roundUnits_mul (Nat.zero_mod (spacing 0)) h
  rw [Nat.zero_mul] at hRound
  simp only [Magnitude.nearest?, Nat.zero_mul, hRound]
  exact dif_pos unitsLimit_pos

/-- The cost that is read from the text of a number is the number nearest to the text, and it has
the same text. -/
theorem costOf_placeChars (m : Magnitude) : ∃ m' : Magnitude,
    Magnitude.nearest? (m.inPlaces 4 * unitsPerOne) (10 ^ 4) = some m' ∧
      costOf (Binary64.placeChars 4 (m.inPlaces 4)) = .finite false m' ∧
        m'.inPlaces 4 = m.inPlaces 4 := by
  obtain ⟨m', hNearest, hPlaces⟩ := m.inPlaces_nearest?
  refine ⟨m', hNearest, ?_, hPlaces⟩
  by_cases hZero : m.inPlaces 4 = 0
  · rw [hZero, nearest?_zero (by decide)] at hNearest
    rw [hZero, costOf_zero, Option.some.inj hNearest]
  · exact costOf_of_nearest? (m.length_inPlaces (by omega)) hNearest hZero

section

variable {amount : List Char}

theorem IsAmount.isCostPart (h : IsAmount amount) : ∀ c ∈ amount, isCostPart c = true := by
  obtain ⟨m, rfl⟩ := h
  exact fun c => isCostPart_of_mem_placeChars

theorem IsAmount.ne_nil (h : IsAmount amount) : amount ≠ [] := by
  obtain ⟨m, rfl⟩ := h
  exact placeChars_ne_nil

/-- The cost that is read from an amount is written as the same amount. -/
theorem IsAmount.costText_costOf (h : IsAmount amount) :
    costText (.exact (costOf amount)) = .ok (String.ofList amount) := by
  obtain ⟨m, rfl⟩ := h
  obtain ⟨m', -, hCost, hPlaces⟩ := costOf_placeChars m
  have hFour : costPlaces = 4 := rfl
  rw [hFour, costText_exact, hCost, Binary64.fixed, hFour, hPlaces]
  rfl

end

/-- A number without a minus sign. -/
def IsUnsigned (x : Binary64) : Prop := x = .infinite false ∨ ∃ m, x = .finite false m

theorem isUnsigned_zero : IsUnsigned .zero := .inr ⟨.zero, rfl⟩

theorem isUnsigned_toBinary64 (d : Decimal) : IsUnsigned (d.toBinary64 false) := by
  have hRatio (num den : Nat) : IsUnsigned (.ofRatio false num den) := by
    unfold Binary64.ofRatio
    cases Magnitude.nearest? (num * unitsPerOne) den with
    | none => exact .inl rfl
    | some m => exact .inr ⟨m, rfl⟩
  unfold Decimal.toBinary64
  dsimp only
  split
  · exact isUnsigned_zero
  · split
    · exact .inl rfl
    · split <;> exact hRatio _ _

theorem isUnsigned_costOf (part : List Char) : IsUnsigned (costOf part) := by
  unfold costOf
  dsimp only
  generalize Text.unsignedDecimal? _ = decimal
  cases decimal with
  | none => exact isUnsigned_zero
  | some d => exact isUnsigned_toBinary64 d

theorem isUnsigned_of_recover {document : String} {usage : TokenUsage} {cost : Binary64}
    (h : recover document = .ok (usage, cost)) : IsUnsigned cost := by
  obtain ⟨-, -, -, rfl⟩ := recover_eq_ok h
  cases figure? costLabel.toList isCostPart document.toList with
  | none => exact isUnsigned_zero
  | some part => exact isUnsigned_costOf part

theorem IsUnsigned.isAmount {cost : Binary64} (h : IsUnsigned cost)
    (hFinite : cost.isFinite = true) : IsAmount (cost.fixed costPlaces).toList := by
  rcases h with rfl | ⟨m, rfl⟩
  · cases hFinite
  · refine ⟨m, ?_⟩
    rw [Binary64.fixed, String.toList_ofList]
    rfl

end Statistics

end ReportPress
