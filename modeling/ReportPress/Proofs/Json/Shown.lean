import ReportPress.Json.Display
import ReportPress.Proofs.Binary64.Places
import ReportPress.Proofs.Json.Throughout
import ReportPress.Proofs.Option

/-!
Values that read somehow in a document: those that can be written, as their whole numbers have few
enough digits. A number that is not given as whole is never too long, whole or not. Main statements:
`isSome_display?_iff` and `isSome_displayText?_iff`.
-/

namespace ReportPress

theorem Text.isSome_intText?_iff {n : Int} : (intText? n).isSome ↔ isShort n = true := by
  rw [intText?]
  split <;> simp_all

theorem Binary64.isShort_toInt? {x : Binary64} {n : Int} (h : x.toInt? = some n) :
    Text.isShort n = true := by
  cases x with
  | finite negative m =>
    obtain ⟨_, hWhole, rfl⟩ := Option.map_eq_some_iff.1 h
    obtain ⟨count, hCount, hSame⟩ := Option.bind_eq_some_iff.1 hWhole
    obtain rfl := Option.some.inj hSame
    have hSize : (if negative then -(count : Int) else count).natAbs = count := by
      split <;> simp
    rw [Text.isShort, decide_eq_true_eq, hSize]
    exact Magnitude.length_toNat? hCount (by decide)
  | _ => cases h

namespace Json

section

variable {value : Json}

theorem isSome_floatText? (x : Binary64) : (floatText? x).isSome := by
  rw [floatText?]
  split
  · rename_i n hWhole
    exact Text.isSome_intText?_iff.2 (Binary64.isShort_toInt? hWhole)
  · rfl

theorem itemLiterals?_eq_mapM (items : List Json) : itemLiterals? items = items.mapM literal? := by
  induction items with
  | nil => rfl
  | cons item rest ih => rw [itemLiterals?, List.mapM_cons, ih]

theorem isSome_memberLiterals?_iff {members : Members} :
    (memberLiterals? members).isSome ↔ ∀ member ∈ members, (literal? member.2).isSome := by
  induction members with
  | nil => simp [memberLiterals?]
  | cons member rest ih =>
    rw [List.forall_mem_cons, ← ih, memberLiterals?]
    cases literal? member.2 <;> cases memberLiterals? rest <;> simp

theorem isSome_literal?_iff : (literal? value).isSome ↔ Throughout HasFewDigits value := by
  induction value using parts_induction with
  | step value ih =>
    cases value with
    | int n =>
      rw [throughout_single_iff rfl, literal?, Text.isSome_intText?_iff, Text.isShort,
        decide_eq_true_eq, HasFewDigits]
    | arr items =>
      rw [literal?, Option.isSome_map, itemLiterals?_eq_mapM, isSome_mapM, throughout_arr_iff]
      simp only [HasFewDigits, true_and]
      exact forall₂_congr ih
    | obj members =>
      rw [literal?, Option.isSome_map, isSome_memberLiterals?_iff, throughout_obj_iff]
      simp only [HasFewDigits, true_and]
      exact forall₂_congr fun member hMember => ih member.2 (List.mem_map_of_mem hMember)
    | _ =>
      rw [throughout_single_iff rfl]
      exact ⟨fun _ => trivial, fun _ => rfl⟩

/-- A value reads somehow exactly if it can be written. -/
theorem isSome_display?_iff : (display? value).isSome ↔ Throughout HasFewDigits value := by
  induction value using parts_induction with
  | step value ih =>
    cases value with
    | int n =>
      rw [throughout_single_iff rfl, display?, Text.isSome_intText?_iff, Text.isShort,
        decide_eq_true_eq, HasFewDigits]
    | float x =>
      rw [throughout_single_iff rfl]
      exact ⟨fun _ => trivial, fun _ => isSome_floatText? x⟩
    | arr items =>
      rw [display?, Option.isSome_map, displayItems?_eq_mapM, isSome_mapM, throughout_arr_iff]
      simp only [HasFewDigits, true_and]
      exact forall₂_congr ih
    | obj members => exact isSome_literal?_iff
    | _ =>
      rw [throughout_single_iff rfl]
      exact ⟨fun _ => trivial, fun _ => rfl⟩

theorem isSome_displayText?_iff : (displayText? value).isSome ↔ Throughout HasFewDigits value := by
  rw [← isSome_display?_iff]
  cases value <;> rfl

/-- What has no content has no whole number in it but zero. -/
theorem hasFewDigits_of_not_isTruthy (h : value.isTruthy = false) :
    Throughout HasFewDigits value := by
  cases value with
  | int n =>
    obtain rfl : n = 0 := by simpa [isTruthy] using h
    have hShort : (Int.natAbs 0).repr.length ≤ Text.digitLimit := by decide
    exact (throughout_single_iff rfl).2 hShort
  | arr items =>
    obtain rfl : items = [] := by simpa [isTruthy] using h
    exact (throughout_single_iff rfl).2 trivial
  | obj members =>
    obtain rfl : members = [] := by simpa [isTruthy] using h
    exact (throughout_single_iff rfl).2 trivial
  | _ => exact (throughout_single_iff rfl).2 trivial

end

end Json

end ReportPress
