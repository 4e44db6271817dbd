import Mathlib.Data.List.Forall2
import ReportPress.Record.Field

/-!
What passes a check. A check that is made of others succeeds exactly if those do, on the parts that
it hands to them. Main statements: `Check.each_eq_ok_iff`, `Record.nullable_eq_ok_iff` and
`Field.optional_eq_ok_iff`.
-/

namespace ReportPress

theorem Check.each_eq_ok_iff {α β : Type} {check : α → Check β} {items : List α} {found : List β}
    {position : Nat} : each check position items = .ok found ↔
      List.Forall₂ (fun item b => check item = .ok b) items found := by
  induction items generalizing position found with
  | nil =>
    rw [each_nil, List.forall₂_nil_left_iff]
    exact ⟨fun h => (Except.ok.inj h).symm, fun h => h ▸ rfl⟩
  | cons item rest ih =>
    rw [each_cons_eq_ok_iff, List.forall₂_cons_left_iff]
    simp only [ih]

section

variable {α : Type} {check : Json → Check α} {raw : Json} {field : Field} {members : Members}

namespace Record

theorem list_eq_ok_iff {found : List α} : list check raw = .ok found ↔
    ∃ items, raw = .arr items ∧ List.Forall₂ (fun item a => check item = .ok a) items found := by
  constructor
  · intro h
    cases raw with
    | arr items => exact ⟨items, rfl, Check.each_eq_ok_iff.1 h⟩
    | _ => cases h
  · rintro ⟨items, rfl, hItems⟩
    exact Check.each_eq_ok_iff.2 hItems

theorem nullable_of_ne_null (h : raw ≠ .null) : nullable check raw = (check raw).map some := by
  cases raw <;> first | rfl | exact absurd rfl h

theorem nullable_eq_ok_iff {value : Option α} : nullable check raw = .ok value ↔
    raw = .null ∧ value = none ∨ raw ≠ .null ∧ ∃ a, check raw = .ok a ∧ some a = value := by
  by_cases hNull : raw = .null
  · subst hNull
    rw [nullable]
    simp [eq_comm]
  · rw [nullable_of_ne_null hNull, Check.map_eq_ok_iff]
    simp [hNull]

theorem object_eq_ok_iff {model : String} {check : Members → Check α} {a : α} :
    object model check raw = .ok a ↔ ∃ members, raw = .obj members ∧ check members = .ok a := by
  constructor
  · intro h
    cases raw with
    | obj members => exact ⟨members, rfl, h⟩
    | _ => cases h
  · rintro ⟨members, rfl, h⟩
    exact h

end Record

namespace Field

theorem given?_eq_none_iff : field.given? members = none ↔
    members.get? field.jsonName = none ∧ members.get? field.name = none := by
  rw [given?]
  cases members.get? field.jsonName <;> simp

/-- A field that may be absent is read from the value given for it, if there is one. -/
theorem optional_eq_ok_iff {value : Option α} : field.optional check members = .ok value ↔
    Option.Rel (fun raw a => check raw = .ok a) (field.value? members) value := by
  rw [optional, value?]
  cases field.given? members with
  | none =>
    constructor
    · intro h
      rw [← Except.ok.inj h]
      exact .none
    · intro h
      cases h
      rfl
  | some given =>
    simp only [Check.map_eq_ok_iff, Check.under_eq_ok_iff, Option.map_some]
    constructor
    · rintro ⟨a, ha, rfl⟩
      exact .some ha
    · intro h
      cases h with
      | some ha => exact ⟨_, ha, rfl⟩

theorem required_eq_ok_iff {a : α} : field.required check members = .ok a ↔
    ∃ raw, field.value? members = some raw ∧ check raw = .ok a := by
  rw [required, value?]
  cases field.given? members with
  | none => simp
  | some given => simp [Check.under_eq_ok_iff]

end Field

end

end ReportPress
