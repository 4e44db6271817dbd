import Mathlib.Data.List.Basic

/-!
Results that may be missing. `List.mapM` of a partial function gives a list exactly if the function
is defined at every item, and then the list of its values.
-/

namespace ReportPress

variable {α β : Type} {f g : α → Option β} {items : List α}

theorem mapM_congr (h : ∀ item ∈ items, f item = g item) : items.mapM f = items.mapM g := by
  induction items with
  | nil => rfl
  | cons item rest ih =>
    obtain ⟨hItem, hRest⟩ := List.forall_mem_cons.1 h
    rw [List.mapM_cons, List.mapM_cons, hItem, ih hRest]

theorem mapM_eq_map {value : α → β} (h : ∀ item ∈ items, f item = some (value item)) :
    items.mapM f = some (items.map value) :=
  (mapM_congr h).trans List.mapM_pure

theorem isSome_mapM : (items.mapM f).isSome ↔ ∀ item ∈ items, (f item).isSome := by
  induction items with
  | nil => simp
  | cons item rest ih =>
    rw [List.forall_mem_cons, ← ih, List.mapM_cons]
    cases f item <;> cases rest.mapM f <;> simp

/-- The values of a function that is defined at every item. -/
theorem mapM_of_isSome (h : ∀ item ∈ items, (f item).isSome) (standard : β) :
    items.mapM f = some (items.map fun item => (f item).getD standard) :=
  mapM_eq_map fun item hItem => by
    obtain ⟨value, hValue⟩ := Option.isSome_iff_exists.1 (h item hItem)
    rw [hValue, Option.getD_some]

/-- What goes on with a result, whatever the result is, comes to something if both do. -/
theorem isSome_bind_iff {first : Option α} {next : α → Option β} {p q : Prop}
    (hFirst : first.isSome ↔ p) (hNext : p → ∀ a, (next a).isSome ↔ q) :
    (first >>= next).isSome ↔ p ∧ q := by
  rw [← hFirst] at hNext ⊢
  cases first with
  | none => simp
  | some a => simp [hNext rfl a]

theorem isSome_bind_pure_iff {first : Option α} {next : α → β} {p : Prop}
    (hFirst : first.isSome ↔ p) : (first >>= fun a => pure (next a)).isSome ↔ p := by
  rw [← hFirst]
  cases first <;> simp

end ReportPress
