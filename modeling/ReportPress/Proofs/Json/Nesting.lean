import Mathlib.Logic.Relation
import ReportPress.Proofs.Json.Throughout

/-!
The nesting of JSON values. A value nests one deeper than what nests deepest in it, so there is room
for a value exactly if there is less room, and enough, for each of its parts. Main statements:
`nesting_le_iff` and `Inside.nesting_lt`.
-/

namespace ReportPress.Json

section

variable {bound room : Nat} {value : Json}

theorem nestingItems_le_iff {items : List Json} :
    nestingItems items ≤ bound ↔ ∀ item ∈ items, item.nesting < bound := by
  induction items with
  | nil => simp [nestingItems]
  | cons item rest ih =>
    rw [nestingItems, Nat.max_le, ih, List.forall_mem_cons]
    rfl

theorem nestingMembers_eq (members : Members) :
    nestingMembers members = nestingItems (members.map (·.2)) := by
  induction members with
  | nil => rfl
  | cons member rest ih => rw [nestingMembers, ih, List.map_cons, nestingItems]

theorem nesting_eq (value : Json) : value.nesting = nestingItems value.parts := by
  cases value with
  | arr items => rfl
  | obj members => exact nestingMembers_eq members
  | _ => rfl

theorem nesting_le_iff : value.nesting ≤ bound ↔ ∀ part ∈ value.parts, part.nesting < bound := by
  rw [nesting_eq, nestingItems_le_iff]

theorem nesting_lt_of_mem_parts {part : Json} (h : part ∈ value.parts) :
    part.nesting < value.nesting :=
  nesting_le_iff.1 (Nat.le_refl _) part h

/-- A value with something in it needs room for it. -/
theorem exists_room {part : Json} (hPart : part ∈ value.parts) (h : value.nesting ≤ room) :
    ∃ inner, room = inner + 1 ∧ ∀ part ∈ value.parts, part.nesting ≤ inner := by
  have hParts := nesting_le_iff.1 h
  obtain ⟨inner, rfl⟩ := Nat.exists_eq_succ_of_ne_zero (Nat.ne_of_gt (Nat.zero_lt_of_lt
    (hParts part hPart)))
  exact ⟨inner, rfl, fun other hOther => Nat.le_of_lt_succ (hParts other hOther)⟩

end

/-- The part stands in the value, directly or in something that does. -/
def Inside : Json → Json → Prop := Relation.TransGen fun part value => part ∈ value.parts

theorem Inside.nesting_lt {part value : Json} (h : Inside part value) :
    part.nesting < value.nesting := by
  induction h with
  | single hPart => exact nesting_lt_of_mem_parts hPart
  | tail _ hPart ih => exact Nat.lt_trans ih (nesting_lt_of_mem_parts hPart)

/-- What holds throughout a value holds throughout all that stands in it. -/
theorem Throughout.of_inside {p : Json → Prop} {part value : Json} (h : Throughout p value)
    (hInside : Inside part value) : Throughout p part := by
  induction hInside with
  | single hPart => exact (throughout_iff.1 h).2 _ hPart
  | tail _ hPart ih => exact ih ((throughout_iff.1 h).2 _ hPart)

@[simp] theorem nesting_finite (value : Json) : value.finite.nesting = value.nesting := by
  induction value using parts_induction with
  | step value ih =>
    have hParts : ∀ bound, value.finite.nesting ≤ bound ↔ value.nesting ≤ bound := by
      intro bound
      rw [nesting_le_iff, nesting_le_iff, parts_finite, List.forall_mem_map]
      exact forall₂_congr fun part hPart => by rw [ih part hPart]
    exact Nat.le_antisymm ((hParts _).2 (Nat.le_refl _)) ((hParts _).1 (Nat.le_refl _))

end ReportPress.Json
