import ReportPress.Json.Display
import ReportPress.Proofs.Json.Throughout
import ReportPress.Proofs.Option

/-!
Nulls in lists as they read in a document. A null alone is left out, while a null in a list is shown
as its literal, so that a list that has a text reads as its items do, between commas, exactly if
none of them is null. Main statement: `displayText_list_iff`.
-/

namespace ReportPress.Json

mutual

/-- The value as it reads in a document, a null being left out wherever it stands in a list. -/
def blankText? : Json → Option String
  | .null => some ""
  | .arr items => (blankTexts? items).map (",".intercalate ·)
  | value => display? value

/-- `blankText?` of each item. -/
def blankTexts? : List Json → Option (List String)
  | [] => some []
  | item :: rest => do return (← blankText? item) :: (← blankTexts? rest)

end

/-- The value is a list with a null in it, in the list itself or in a list inside. -/
inductive ListsNull : Json → Prop
  | here {items : List Json} (h : .null ∈ items) : ListsNull (.arr items)
  | inside {items : List Json} {item : Json} (h : item ∈ items) (hItem : ListsNull item) :
    ListsNull (.arr items)

theorem blankTexts?_eq_mapM (items : List Json) : blankTexts? items = items.mapM blankText? := by
  induction items with
  | nil => rfl
  | cons item rest ih => rw [blankTexts?, List.mapM_cons, ih]

/-! ### Lengths of joined texts -/

section

variable {α : Type}

theorem length_intercalate_map_le {f g : α → String} {items : List α}
    (h : ∀ item ∈ items, (f item).length ≤ (g item).length) :
    (",".intercalate (items.map f)).length ≤ (",".intercalate (items.map g)).length := by
  induction items with
  | nil => exact Nat.le_refl _
  | cons item rest ih =>
    obtain ⟨hItem, hRest⟩ := List.forall_mem_cons.1 h
    cases rest with
    | nil => simpa using hItem
    | cons next rest =>
      have hJoined := ih hRest
      simp only [List.map_cons, String.intercalate_cons_cons, String.length_append] at hJoined ⊢
      omega

theorem length_intercalate_map_lt {f g : α → String} {items : List α}
    (h : ∀ item ∈ items, (f item).length ≤ (g item).length)
    (hShorter : ∃ item ∈ items, (f item).length < (g item).length) :
    (",".intercalate (items.map f)).length < (",".intercalate (items.map g)).length := by
  induction items with
  | nil => simp at hShorter
  | cons item rest ih =>
    obtain ⟨hItem, hRest⟩ := List.forall_mem_cons.1 h
    cases rest with
    | nil => simpa using hShorter
    | cons next rest =>
      have hJoined := length_intercalate_map_le hRest
      obtain ⟨shorter, hMem, hLt⟩ := hShorter
      rcases List.mem_cons.1 hMem with rfl | hLater
      · simp only [List.map_cons, String.intercalate_cons_cons, String.length_append] at hJoined ⊢
        omega
      · have hStrict := ih hRest ⟨shorter, hLater, hLt⟩
        simp only [List.map_cons, String.intercalate_cons_cons, String.length_append] at hStrict ⊢
        omega

/-- The length of a text, zero without one. -/
def shownLength (text? : Option String) : Nat := (text?.getD "").length

variable {f g : α → Option String} {items : List α}

theorem isSome_joined :
    ((items.mapM f).map (",".intercalate ·)).isSome ↔ ∀ item ∈ items, (f item).isSome := by
  rw [Option.isSome_map, isSome_mapM]

theorem shownLength_joined (h : ∀ item ∈ items, (f item).isSome) :
    shownLength ((items.mapM f).map (",".intercalate ·)) =
      (",".intercalate (items.map fun item => (f item).getD "")).length := by
  rw [mapM_of_isSome h "", Option.map_some, shownLength, Option.getD_some]

theorem shownLength_joined_le (hShown : ∀ item ∈ items, (f item).isSome = (g item).isSome)
    (h : ∀ item ∈ items, shownLength (f item) ≤ shownLength (g item)) :
    shownLength ((items.mapM f).map (",".intercalate ·)) ≤
      shownLength ((items.mapM g).map (",".intercalate ·)) := by
  by_cases hSome : ∀ item ∈ items, (f item).isSome
  · rw [shownLength_joined hSome,
      shownLength_joined fun item hItem => hShown item hItem ▸ hSome item hItem]
    exact length_intercalate_map_le h
  · rw [← isSome_joined, Option.not_isSome_iff_eq_none] at hSome
    rw [hSome]
    exact Nat.zero_le _

theorem shownLength_joined_lt (hSome : ∀ item ∈ items, (f item).isSome ∧ (g item).isSome)
    (h : ∀ item ∈ items, shownLength (f item) ≤ shownLength (g item))
    (hShorter : ∃ item ∈ items, shownLength (f item) < shownLength (g item)) :
    shownLength ((items.mapM f).map (",".intercalate ·)) <
      shownLength ((items.mapM g).map (",".intercalate ·)) := by
  rw [shownLength_joined fun item hItem => (hSome item hItem).1,
    shownLength_joined fun item hItem => (hSome item hItem).2]
  exact length_intercalate_map_lt h hShorter

end

/-! ### Nulls that are left out -/

section

variable {items : List Json} {value : Json}

theorem display?_arr (items : List Json) :
    display? (.arr items) = (items.mapM display?).map (",".intercalate ·) := by
  rw [display?, displayItems?_eq_mapM]

theorem blankText?_arr (items : List Json) :
    blankText? (.arr items) = (items.mapM blankText?).map (",".intercalate ·) := by
  rw [blankText?, blankTexts?_eq_mapM]

theorem isSome_displayText? (value : Json) :
    (displayText? value).isSome = (display? value).isSome := by
  cases value <;> rfl

theorem isSome_blankText? (value : Json) :
    (blankText? value).isSome = (display? value).isSome := by
  induction value using parts_induction with
  | step value ih =>
    cases value with
    | null => rfl
    | arr items =>
      rw [blankText?_arr, display?_arr, Bool.eq_iff_iff, isSome_joined, isSome_joined]
      exact forall₂_congr fun item hItem => by rw [ih item hItem]
    | _ => rfl

theorem shownLength_displayText?_le (value : Json) :
    shownLength (displayText? value) ≤ shownLength (display? value) := by
  by_cases h : value = .null
  · subst h
    exact Nat.zero_le _
  · exact Nat.le_of_eq (congrArg shownLength (displayText?_of_ne_null h))

theorem shownLength_blankText?_le (value : Json) :
    shownLength (blankText? value) ≤ shownLength (display? value) := by
  induction value using parts_induction with
  | step value ih =>
    cases value with
    | null => exact Nat.zero_le _
    | arr items =>
      rw [blankText?_arr, display?_arr]
      exact shownLength_joined_le (fun item _ => isSome_blankText? item) ih
    | _ => exact Nat.le_refl _

/-- The items of a list that has a text have one, nulls being left out or not. -/
theorem isSome_items (h : (display? (.arr items)).isSome) :
    ∀ item ∈ items, (blankText? item).isSome ∧ (display? item).isSome := by
  rw [display?_arr, isSome_joined] at h
  exact fun item hItem => ⟨isSome_blankText? item ▸ h item hItem, h item hItem⟩

/-- A null in a list makes the text longer than it is where nulls are left out. -/
theorem ListsNull.shownLength_blankText?_lt (h : ListsNull value)
    (hSome : (display? value).isSome) :
    shownLength (blankText? value) < shownLength (display? value) := by
  induction h with
  | here hNull =>
    have hItems := isSome_items hSome
    rw [blankText?_arr, display?_arr]
    exact shownLength_joined_lt hItems (fun item _ => shownLength_blankText?_le item)
      ⟨.null, hNull, by decide⟩
  | inside hItem _ ih =>
    have hItems := isSome_items hSome
    rw [blankText?_arr, display?_arr]
    exact shownLength_joined_lt hItems (fun item _ => shownLength_blankText?_le item)
      ⟨_, hItem, ih (hItems _ hItem).2⟩

theorem blankText?_eq_display? (hValue : value ≠ .null) (h : ¬ ListsNull value) :
    blankText? value = display? value := by
  induction value using parts_induction with
  | step value ih =>
    cases value with
    | null => exact absurd rfl hValue
    | arr items =>
      have hItems : items.mapM blankText? = items.mapM display? := by
        refine mapM_congr fun item hItem => ih item hItem ?_ ?_
        · exact fun hNull => h (.here (hNull ▸ hItem))
        · exact fun hLists => h (.inside hItem hLists)
      rw [blankText?_arr, display?_arr, hItems]
    | _ => rfl

theorem displayText?_eq_blankText?_iff :
    displayText? value = blankText? value ↔ ¬ ListsNull value ∨ displayText? value = none := by
  by_cases hNull : value = .null
  · subst hNull
    exact ⟨fun _ => .inl (fun hLists => by cases hLists), fun _ => rfl⟩
  rw [displayText?_of_ne_null hNull]
  constructor
  · intro h
    rw [or_iff_not_imp_right, ← Option.not_isSome_iff_eq_none, not_not]
    intro hSome hLists
    exact Nat.ne_of_gt (hLists.shownLength_blankText?_lt hSome) (congrArg shownLength h)
  · rintro (h | hNone)
    · exact (blankText?_eq_display? hNull h).symm
    · have hBlank := isSome_blankText? value
      rw [hNone, Option.isSome_none, Option.isSome_eq_false_iff, Option.isNone_iff_eq_none]
        at hBlank
      rw [hNone, hBlank]

theorem displayText?_arr_iff :
    displayText? (.arr items) = (items.mapM displayText?).map (",".intercalate ·) ↔
      .null ∉ items ∨ displayText? (.arr items) = none := by
  rw [displayText?_of_ne_null (by simp), display?_arr]
  constructor
  · intro h
    rw [or_iff_not_imp_right, ← Option.not_isSome_iff_eq_none, not_not, isSome_joined]
    intro hSome hNull
    have hLonger := shownLength_joined_lt
      (fun item hItem => ⟨isSome_displayText? item ▸ hSome item hItem, hSome item hItem⟩)
      (fun item _ => shownLength_displayText?_le item) ⟨.null, hNull, by decide⟩
    exact Nat.ne_of_gt hLonger (congrArg shownLength h)
  · rintro (h | hNone)
    · have hItems : items.mapM displayText? = items.mapM display? :=
        mapM_congr fun item hItem => displayText?_of_ne_null fun hNull => h (hNull ▸ hItem)
      rw [hItems]
    · have hOther : (items.mapM displayText?).isSome = (items.mapM display?).isSome := by
        rw [Bool.eq_iff_iff, isSome_mapM, isSome_mapM]
        exact forall₂_congr fun item _ => by rw [isSome_displayText?]
      rw [Option.map_eq_none_iff] at hNone
      rw [hNone, Option.isSome_none, Option.isSome_eq_false_iff, Option.isNone_iff_eq_none]
        at hOther
      rw [hNone, hOther]

end

/-- A list reads as its items do, between commas, exactly if none of them is null or the list has no
text at all; and a value reads as it does where nulls in lists are left out, at any depth, exactly
if no list in it, itself included, has a null among its items, or it has no text at all. -/
theorem displayText_list_iff (items : List Json) (value : Json) :
    (displayText? (.arr items) = (items.mapM displayText?).map (",".intercalate ·) ↔
        .null ∉ items ∨ displayText? (.arr items) = none) ∧
      (displayText? value = blankText? value ↔ ¬ ListsNull value ∨ displayText? value = none) :=
  ⟨displayText?_arr_iff, displayText?_eq_blankText?_iff⟩

theorem not_displayText_list : displayText? (.arr [.str "a", .null]) = some "a,None" ∧
    ¬ ∀ items, displayText? (.arr items) = (items.mapM displayText?).map (",".intercalate ·) := by
  refine ⟨by decide, fun h => ?_⟩
  rcases displayText?_arr_iff.1 (h [.null]) with hNull | hNone
  · exact hNull List.mem_cons_self
  · exact absurd hNone (by decide)

end ReportPress.Json
