import ReportPress.Proofs.Record.Slots
import ReportPress.Report.Dump

/-!
Checks and the values that they accept. Each check has a way to write what it gave, and what is
written passes the check again; replacing the numbers that are not finite before or after writing
comes to the same. Lists, values that may be null and fields take this over from their parts. Main
statements: `IsCodec.list`, `IsCodec.nullable` and `IsCodec.optional_write`.
-/

namespace ReportPress

namespace Record

/-- A check, a way to write what it gives, and what it gives; `finite` replaces the numbers that are
not finite. -/
structure IsCodec {α : Type} (check : Json → Check α) (toJson : α → Json) (finite : α → α)
    (Kept : α → Prop) : Prop where
  kept : ∀ {raw : Json} {a : α}, Json.Throughout Json.HasDistinctKeys raw → check raw = .ok a →
    Kept a
  distinct : ∀ {a : α}, Kept a → Json.Throughout Json.HasDistinctKeys (toJson a)
  check_toJson : ∀ {a : α}, Kept a → check (toJson a) = .ok a
  kept_finite : ∀ {a : α}, Kept a → Kept (finite a)
  toJson_finite : ∀ a : α, toJson (finite a) = (toJson a).finite

theorem isCodec_any : IsCodec any id Json.finite (Json.Throughout Json.HasDistinctKeys) := by
  constructor
  case kept =>
    intro raw a hRaw h
    cases h
    exact hRaw
  case distinct =>
    intro a h
    exact h
  case check_toJson =>
    intro a h
    rfl
  case kept_finite =>
    intro a h
    exact h.finite fun _ => Json.HasDistinctKeys.finite
  case toJson_finite =>
    intro a
    rfl

/-- A check of single values that takes what is written for what was written. -/
theorem isCodec_single {α : Type} {check : Json → Check α} {toJson : α → Json} {Kept : α → Prop}
    (hParts : ∀ a, (toJson a).parts = []) (hFinite : ∀ a, (toJson a).finite = toJson a)
    (hKept : ∀ raw a, check raw = .ok a → Kept a)
    (hCheck : ∀ a, Kept a → check (toJson a) = .ok a) : IsCodec check toJson id Kept := by
  constructor
  case kept =>
    intro raw a _ h
    exact hKept raw a h
  case distinct =>
    intro a _
    exact Json.distinct_of_parts_nil (hParts a)
  case check_toJson =>
    intro a h
    exact hCheck a h
  case kept_finite =>
    intro a h
    exact h
  case toJson_finite =>
    intro a
    exact (hFinite a).symm

theorem isCodec_text : IsCodec text .str id fun _ => True :=
  isCodec_single (fun _ => rfl) (fun _ => rfl) (fun _ _ _ => trivial) fun _ _ => rfl

theorem isCodec_whole : IsCodec whole .int id fun _ => True :=
  isCodec_single (fun _ => rfl) (fun _ => rfl) (fun _ _ _ => trivial) fun _ _ => rfl

section

variable {α : Type} {check : Json → Check α} {toJson : α → Json} {finite : α → α}
  {Kept : α → Prop}

/-- What comes of a check of items is what comes of the check of one of them. -/
theorem exists_of_each {items : List Json} {found : List α} {position : Nat}
    (h : Check.each check position items = .ok found) {a : α} (ha : a ∈ found) :
    ∃ item ∈ items, check item = .ok a := by
  induction items generalizing found position with
  | nil =>
    cases h
    cases ha
  | cons item rest ih =>
    obtain ⟨b, bs, hItem, hRest, rfl⟩ := Check.each_cons_eq_ok_iff.1 h
    rcases List.mem_cons.1 ha with rfl | hMem
    · exact ⟨item, List.mem_cons_self, hItem⟩
    · obtain ⟨other, hOther, hCheck⟩ := ih hRest hMem
      exact ⟨other, List.mem_cons_of_mem _ hOther, hCheck⟩

theorem each_map {items : List α} (h : ∀ a ∈ items, check (toJson a) = .ok a) (position : Nat) :
    Check.each check position (items.map toJson) = .ok items := by
  rw [Check.each_eq_ok_iff, List.forall₂_map_left_iff, List.forall₂_same]
  exact h

theorem IsCodec.list (h : IsCodec check toJson finite Kept) :
    IsCodec (list check) (.ofList toJson) (List.map finite) fun items => ∀ a ∈ items, Kept a := by
  constructor
  case kept =>
    intro raw found hRaw hCheck a ha
    cases raw with
    | arr items =>
      obtain ⟨item, hItem, hOk⟩ := exists_of_each hCheck ha
      exact h.kept ((Json.throughout_arr_iff.1 hRaw).2 item hItem) hOk
    | _ => cases hCheck
  case distinct =>
    intro items hItems
    refine Json.throughout_arr_iff.2 ⟨trivial, fun item hItem => ?_⟩
    obtain ⟨a, ha, rfl⟩ := List.mem_map.1 hItem
    exact h.distinct (hItems a ha)
  case check_toJson =>
    intro items hItems
    exact each_map (fun a ha => h.check_toJson (hItems a ha)) 0
  case kept_finite =>
    intro items hItems a ha
    obtain ⟨b, hb, rfl⟩ := List.mem_map.1 ha
    exact h.kept_finite (hItems b hb)
  case toJson_finite =>
    intro items
    simp [Json.ofList, Json.finite, Json.finiteItems_eq_map, h.toJson_finite]

theorem IsCodec.kept_map_finite (h : IsCodec check toJson finite Kept) {value : Option α}
    (hKept : ∀ a ∈ value, Kept a) : ∀ a ∈ value.map finite, Kept a := by
  intro a ha
  obtain ⟨b, hb, rfl⟩ := Option.map_eq_some_iff.1 ha
  exact h.kept_finite (hKept b hb)

theorem IsCodec.map_finite (h : IsCodec check toJson finite Kept) (value : Option α) :
    (value.map finite).map toJson = (value.map toJson).map Json.finite := by
  cases value with
  | none => rfl
  | some a => exact congrArg some (h.toJson_finite a)

theorem IsCodec.nullable (h : IsCodec check toJson finite Kept) (hNull : ∀ a, toJson a ≠ .null) :
    IsCodec (nullable check) (.ofNullable toJson) (Option.map finite) fun value =>
      ∀ a ∈ value, Kept a := by
  constructor
  case kept =>
    intro raw found hRaw hCheck a ha
    rcases nullable_eq_ok_iff.1 hCheck with ⟨-, rfl⟩ | ⟨-, b, hb, rfl⟩
    · cases ha
    · obtain rfl := Option.some.inj ha
      exact h.kept hRaw hb
  case distinct =>
    intro value hValue
    cases value with
    | none => exact Json.distinct_of_parts_nil rfl
    | some a => exact h.distinct (hValue a rfl)
  case check_toJson =>
    intro value hValue
    cases value with
    | none => rfl
    | some a => exact nullable_eq_ok_iff.2 (.inr ⟨hNull a, a, h.check_toJson (hValue a rfl), rfl⟩)
  case kept_finite =>
    intro value hValue
    exact h.kept_map_finite hValue
  case toJson_finite =>
    intro value
    cases value with
    | none => rfl
    | some a => exact h.toJson_finite a

end

section

variable {α : Type} {check : Json → Check α} {toJson : α → Json} {finite : α → α}
  {Kept : α → Prop} (h : IsCodec check toJson finite Kept) {field : Field}
include h

/-- What the values of a field are written as has different keys throughout. -/
theorem IsCodec.distinct_map {value : Option α} (hKept : ∀ a ∈ value, Kept a) :
    ∀ v ∈ value.map toJson, Json.Throughout Json.HasDistinctKeys v := by
  intro v hv
  obtain ⟨a, ha, rfl⟩ := Option.map_eq_some_iff.1 hv
  exact h.distinct (hKept a ha)

/-- What comes of the check of a field that may be absent. -/
theorem IsCodec.of_optional {members : Members} {value : Option α}
    (hMembers : ∀ member ∈ members, Json.Throughout Json.HasDistinctKeys member.2)
    (hCheck : field.optional check members = .ok value) :
    (∀ a ∈ value, Kept a) ∧ IsGivenBy members (field, value.map toJson) := by
  have hRel := Field.optional_eq_ok_iff.1 hCheck
  cases hValue : field.value? members with
  | none =>
    rw [hValue] at hRel
    cases hRel
    exact ⟨nofun, fun _ => Option.map_eq_none_iff.1 hValue, nofun⟩
  | some raw =>
    rw [hValue] at hRel
    cases hRel with
    | @some _ a hOk =>
      have hKept : ∀ b ∈ some a, Kept b := by
        intro b hb
        obtain rfl := Option.some.inj hb
        exact h.kept (distinct_of_value? hMembers hValue) hOk
      exact ⟨hKept, nofun, h.distinct_map hKept⟩

theorem IsCodec.of_required {members : Members} {a : α}
    (hMembers : ∀ member ∈ members, Json.Throughout Json.HasDistinctKeys member.2)
    (hCheck : field.required check members = .ok a) :
    Kept a ∧ IsGivenBy members (field, some (toJson a)) := by
  obtain ⟨raw, hValue, hOk⟩ := Field.required_eq_ok_iff.1 hCheck
  have hKept := h.kept (distinct_of_value? hMembers hValue) hOk
  refine ⟨hKept, nofun, fun v hv => ?_⟩
  obtain rfl := Option.some.inj hv
  exact h.distinct hKept

section

variable {slots : List Slot} {others : Members} (hFits : Fits slots others)
include hFits

theorem IsCodec.optional_write {value : Option α} (hSlot : (field, value.map toJson) ∈ slots)
    (hKept : ∀ a ∈ value, Kept a) : field.optional check (write slots others) = .ok value := by
  rw [Field.optional_eq_ok_iff, value?_write hFits hSlot]
  cases value with
  | none => exact .none
  | some a => exact .some (h.check_toJson (hKept a rfl))

theorem IsCodec.required_write {a : α} (hSlot : (field, some (toJson a)) ∈ slots) (hKept : Kept a) :
    field.required check (write slots others) = .ok a :=
  Field.required_eq_ok_iff.2 ⟨_, value?_write hFits hSlot, h.check_toJson hKept⟩

end

end

/-- A check of objects is a codec if it takes the written members for what was written. -/
theorem isCodec_object {α : Type} {model : String} {check : Members → Check α}
    {slots : α → List Slot} {extras : α → Members} {finite : α → α} {Kept : α → Prop}
    (hFits : ∀ a, Kept a → Fits (slots a) (extras a))
    (hKept : ∀ members a, Json.Throughout Json.HasDistinctKeys (.obj members) →
      check members = .ok a → Kept a)
    (hRead : ∀ a, Kept a → check (write (slots a) (extras a)) = .ok a)
    (hFinite : ∀ a, Kept a → Kept (finite a))
    (hSlots : ∀ a, slots (finite a) = (slots a).map finiteSlot)
    (hExtras : ∀ a, extras (finite a) = Json.finiteMembers (extras a)) :
    IsCodec (object model check) (fun a => .obj (write (slots a) (extras a))) finite Kept := by
  constructor
  case kept =>
    intro raw a hRaw hCheck
    obtain ⟨members, rfl, hMembers⟩ := object_eq_ok_iff.1 hCheck
    exact hKept members a hRaw hMembers
  case distinct =>
    intro a h
    exact (hFits a h).distinct
  case check_toJson =>
    intro a h
    exact hRead a h
  case kept_finite =>
    intro a h
    exact hFinite a h
  case toJson_finite =>
    intro a
    rw [finite_write, hSlots, hExtras]

end Record

end ReportPress
