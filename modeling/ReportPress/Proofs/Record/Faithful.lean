import ReportPress.Proofs.Record.Shape
import ReportPress.Report.Dump

/-!
Checks that lose and invent nothing. What a check gives of a value is written as a value of its
shape is; lists, values that may be null, fields and records take this over from their parts. Main
statements: `IsFaithful.list`, `IsFaithful.nullable` and `isFaithful_object`.
-/

namespace ReportPress

namespace Record

/-- What a check gives is written, with its numbers made finite, as a value of the shape is. -/
def IsFaithful {α : Type} (check : Json → Check α) (toJson : α → Json) (shape : Shape) : Prop :=
  ∀ raw a, Json.Throughout Json.HasDistinctKeys raw → check raw = .ok a →
    shape.Writes raw (toJson a).finite

/-- What a check gives is written as it was read. -/
def IsVerbatim {α : Type} (check : Json → Check α) (toJson : α → Json) : Prop :=
  ∀ raw a, check raw = .ok a → toJson a = raw

section

variable {α : Type} {check : Json → Check α} {toJson : α → Json} {shape : Shape}

theorem isVerbatim_any : IsVerbatim any id := fun _ _ h => (Except.ok.inj h).symm

theorem isVerbatim_text : IsVerbatim text .str := by
  intro raw s h
  cases raw with
  | str found => rw [Except.ok.inj h]
  | _ => cases h

theorem IsVerbatim.list (h : IsVerbatim check toJson) :
    IsVerbatim (list check) (.ofList toJson) := by
  intro raw found hCheck
  obtain ⟨items, rfl, hFound⟩ := list_eq_ok_iff.1 hCheck
  have hItems : List.Forall₂ (· = ·) (found.map toJson) items :=
    List.forall₂_map_left_iff.2 (hFound.flip.imp fun a item => h item a)
  rw [List.forall₂_eq_eq_eq] at hItems
  rw [Json.ofList, hItems]

theorem IsVerbatim.nullable (h : IsVerbatim check toJson) :
    IsVerbatim (nullable check) (.ofNullable toJson) := by
  intro raw value hCheck
  rcases nullable_eq_ok_iff.1 hCheck with ⟨rfl, rfl⟩ | ⟨-, a, ha, rfl⟩
  · rfl
  · exact h raw a ha

theorem IsVerbatim.isFaithful (h : IsVerbatim check toJson) : IsFaithful check toJson .any := by
  intro raw a _ hCheck
  rw [h raw a hCheck]
  rfl

theorem isFaithful_whole : IsFaithful whole .int .whole := fun _ n _ h => ⟨n, h, rfl⟩

theorem IsFaithful.list (h : IsFaithful check toJson shape) :
    IsFaithful (list check) (.ofList toJson) (.list shape) := by
  intro raw found hRaw hCheck
  obtain ⟨items, rfl, hFound⟩ := list_eq_ok_iff.1 hCheck
  have hInside := (Json.throughout_arr_iff.1 hRaw).2
  refine ⟨items, _, rfl, by rw [Json.ofList, Json.finite, Json.finiteItems_eq_map], ?_⟩
  rw [List.forall₂_map_right_iff, List.forall₂_map_right_iff]
  refine ((List.forall₂_and_left _ _).2 ⟨hInside, hFound⟩).imp ?_
  rintro item a ⟨hItem, hOk⟩
  exact h item a hItem hOk

theorem IsFaithful.nullable (h : IsFaithful check toJson shape) :
    IsFaithful (nullable check) (.ofNullable toJson) (.nullable shape) := by
  intro raw value hRaw hCheck
  rcases nullable_eq_ok_iff.1 hCheck with ⟨rfl, rfl⟩ | ⟨hNull, a, ha, rfl⟩
  · exact .inl ⟨rfl, rfl⟩
  · exact .inr ⟨hNull, h raw a hRaw ha⟩

end

section

variable {α : Type} {check : Json → Check α} {toJson : α → Json} {shape : Shape} {field : Field}
  {members : Members}

/-- A slot whose value is written as the value given for its field is. -/
def IsWritten (shape : Field → Shape) (members : Members) (slot : Slot) : Prop :=
  Option.Rel (fun raw value => (shape slot.1).Writes raw value.finite) (slot.1.value? members)
    slot.2

/-- A free-form field has the value that is given for it. -/
theorem isWritten_value? {shape : Field → Shape} (hShape : shape field = .any) :
    IsWritten shape members (field, field.value? members) := by
  rw [IsWritten]
  dsimp only
  cases field.value? members with
  | none => exact .none
  | some v =>
    rw [hShape]
    exact .some rfl

theorem IsFaithful.optional {shape : Field → Shape}
    (h : IsFaithful check toJson (shape field)) {value : Option α}
    (hMembers : ∀ member ∈ members, Json.Throughout Json.HasDistinctKeys member.2)
    (hCheck : field.optional check members = .ok value) :
    IsWritten shape members (field, value.map toJson) := by
  have hRel := Field.optional_eq_ok_iff.1 hCheck
  have hDistinct (v : Json) (h : field.value? members = some v) :
      Json.Throughout Json.HasDistinctKeys v :=
    distinct_of_value? hMembers h
  rw [IsWritten]
  dsimp only
  generalize field.value? members = given at hRel hDistinct ⊢
  cases hRel with
  | none => exact .none
  | some hOk => exact .some (h _ _ (hDistinct _ rfl) hOk)

theorem IsFaithful.required {shape : Field → Shape}
    (h : IsFaithful check toJson (shape field)) {a : α}
    (hMembers : ∀ member ∈ members, Json.Throughout Json.HasDistinctKeys member.2)
    (hCheck : field.required check members = .ok a) :
    IsWritten shape members (field, some (toJson a)) := by
  obtain ⟨raw, hValue, hOk⟩ := Field.required_eq_ok_iff.1 hCheck
  rw [IsWritten, hValue]
  exact .some (h raw a (distinct_of_value? hMembers hValue) hOk)

end

/-- A check of objects is faithful if it keeps what gives none of the fields, and for each field
what is written of the value given for it. -/
theorem isFaithful_object {α : Type} {model : String} {check : Members → Check α}
    {slots : α → List Slot} {extras : α → Members} {fields : List Field} {shape : Field → Shape}
    (hTold : AreTold fields) (hFields : ∀ a, (slots a).map (·.1) = fields)
    (hExtras : ∀ members a, check members = .ok a → extras a = others fields members)
    (hSlots : ∀ members a,
      (∀ member ∈ members, Json.Throughout Json.HasDistinctKeys member.2) →
        check members = .ok a → ∀ slot ∈ slots a, IsWritten shape members slot) :
    IsFaithful (object model check) (fun a => .obj (write (slots a) (extras a)))
      (.record fields shape) := by
  intro raw a hRaw hCheck
  obtain ⟨members, rfl, hMembers⟩ := object_eq_ok_iff.1 hCheck
  obtain ⟨hKeys, hInside⟩ := Json.throughout_obj_iff.1 hRaw
  refine ⟨members, _, rfl, finite_write (slots a) (extras a), ?_⟩
  rw [hExtras members a hMembers]
  exact writesMembers_write hTold hKeys (hFields a) (hSlots members a hInside hMembers)

end Record

end ReportPress
