import Mathlib.Data.List.Pairwise
import ReportPress.Proofs.Json.Throughout
import ReportPress.Proofs.Record.Check

/-!
The members of a written record. As long as the names of the fields differ and none of the other
members bears the name of a field, each field is read with the value that it was written with, and
the others are read as they were. Main statements: `given?_write` and `others_write`.
-/

namespace ReportPress

/-- A field with the value that it has, if it has one. -/
abbrev Slot := Field × Option Json

/-- Two fields that no member can be taken for both of. -/
def Field.IsApart (a b : Field) : Prop :=
  a.jsonName ≠ b.jsonName ∧ a.jsonName ≠ b.name ∧ b.jsonName ≠ a.name

instance (a b : Field) : Decidable (a.IsApart b) := inferInstanceAs (Decidable (_ ∧ _ ∧ _))

instance : Std.Symm Field.IsApart := ⟨fun _ _ h => ⟨h.1.symm, h.2.2, h.2.1⟩⟩

namespace Record

/-- No member can be taken for two of the fields. -/
def AreApart (fields : List Field) : Prop := fields.Pairwise Field.IsApart

instance (fields : List Field) : Decidable (AreApart fields) :=
  inferInstanceAs (Decidable (fields.Pairwise Field.IsApart))

/-- Fields with their values and other members that are not taken for any of the fields; in all of
them the keys of objects are different. -/
structure Fits (slots : List Slot) (others : Members) : Prop where
  apart : AreApart (slots.map (·.1))
  jsonName : ∀ slot ∈ slots, slot.1.jsonName ∉ Members.keys others
  name : ∀ slot ∈ slots, slot.2 = none → slot.1.name ∉ Members.keys others
  values : ∀ slot ∈ slots, ∀ v ∈ slot.2, Json.Throughout Json.HasDistinctKeys v
  others : Json.Throughout Json.HasDistinctKeys (.obj others)

section

variable {slots : List Slot} {others : Members} {field : Field} {value : Option Json}

/-- Two slots with different contents are apart. -/
theorem Fits.isApart (h : Fits slots others) {a b : Slot} (ha : a ∈ slots) (hb : b ∈ slots)
    (hne : a ≠ b) : a.1.IsApart b.1 := by
  have : Std.Symm fun a b : Slot => a.1.IsApart b.1 := ⟨fun _ _ hApart => symm hApart⟩
  exact (List.pairwise_map.1 h.apart).forall ha hb hne

theorem mem_write {member : String × Json} : member ∈ write slots others ↔
    (∃ slot ∈ slots, slot.1.jsonName = member.1 ∧ slot.2 = some member.2) ∨ member ∈ others := by
  rw [write, List.mem_append, List.mem_flatMap]
  refine or_congr_left (exists_congr fun slot => and_congr_right fun _ => ?_)
  rw [Field.member, Option.mem_toList, Option.map_eq_some_iff]
  constructor
  · rintro ⟨v, hv, rfl⟩
    exact ⟨rfl, hv⟩
  · rintro ⟨hName, hv⟩
    exact ⟨_, hv, Prod.ext hName rfl⟩

theorem mem_keys_write {key : String} : key ∈ Members.keys (write slots others) ↔
    (∃ slot ∈ slots, slot.1.jsonName = key ∧ slot.2 ≠ none) ∨ key ∈ Members.keys others := by
  constructor
  · intro h
    obtain ⟨member, hMember, rfl⟩ := List.mem_map.1 h
    rcases mem_write.1 hMember with ⟨slot, hSlot, hName, hValue⟩ | hOther
    · exact .inl ⟨slot, hSlot, hName, by simp [hValue]⟩
    · exact .inr (List.mem_map_of_mem hOther)
  · rintro (⟨slot, hSlot, rfl, hValue⟩ | h)
    · obtain ⟨v, hv⟩ := Option.ne_none_iff_exists'.1 hValue
      have hMember : (slot.1.jsonName, v) ∈ write slots others :=
        mem_write.2 (.inl ⟨slot, hSlot, rfl, hv⟩)
      exact List.mem_map_of_mem hMember
    · obtain ⟨member, hMember, rfl⟩ := List.mem_map.1 h
      exact List.mem_map_of_mem (mem_write.2 (.inr hMember))

theorem keys_slots_sublist (slots : List Slot) :
    (Members.keys (slots.flatMap fun slot => slot.1.member slot.2)).Sublist
      (slots.map (·.1.jsonName)) := by
  induction slots with
  | nil => exact List.Sublist.refl _
  | cons slot rest ih =>
    obtain ⟨field, value⟩ := slot
    rw [List.flatMap_cons, Members.keys, List.map_append, List.map_cons]
    cases value with
    | none => exact ih.cons _
    | some v => exact ih.cons_cons _

theorem Fits.nodup_keys (h : Fits slots others) : (Members.keys (write slots others)).Nodup := by
  have hNames : (slots.map (·.1.jsonName)).Nodup :=
    List.pairwise_map.2 ((List.pairwise_map.1 h.apart).imp fun hApart => hApart.1)
  rw [write, Members.keys, List.map_append, List.nodup_append]
  refine ⟨hNames.sublist (keys_slots_sublist slots), (Json.throughout_obj_iff.1 h.others).1, ?_⟩
  rintro key hSlot _ hOther rfl
  obtain ⟨slot, hMem, rfl⟩ := List.mem_map.1 ((keys_slots_sublist slots).subset hSlot)
  exact h.jsonName slot hMem hOther

theorem Fits.distinct (h : Fits slots others) :
    Json.Throughout Json.HasDistinctKeys (.obj (write slots others)) := by
  rw [Json.throughout_obj_iff]
  refine ⟨h.nodup_keys, fun member hMember => ?_⟩
  rcases mem_write.1 hMember with ⟨slot, hSlot, -, hValue⟩ | hOther
  · exact h.values slot hSlot _ hValue
  · exact (Json.throughout_obj_iff.1 h.others).2 member hOther

theorem given?_write (h : Fits slots others) (hSlot : (field, value) ∈ slots) :
    field.given? (write slots others) = value.map (field.jsonName, ·) := by
  rw [Field.given?]
  cases value with
  | some v =>
    rw [Members.get?_of_mem h.nodup_keys (mem_write.2 (.inl ⟨_, hSlot, rfl, rfl⟩))]
    rfl
  | none =>
    have hJson : field.jsonName ∉ Members.keys (write slots others) := by
      rw [mem_keys_write]
      rintro (⟨slot, hMem, hName, hValue⟩ | hOther)
      · exact (h.isApart hMem hSlot (by rintro rfl; exact hValue rfl)).1 hName
      · exact h.jsonName _ hSlot hOther
    have hPlain : field.name ∉ Members.keys (write slots others) := by
      rw [mem_keys_write]
      rintro (⟨slot, hMem, hName, hValue⟩ | hOther)
      · exact (h.isApart hMem hSlot (by rintro rfl; exact hValue rfl)).2.1 hName
      · exact h.name _ hSlot rfl hOther
    rw [Members.get?_eq_none hJson, Members.get?_eq_none hPlain]
    rfl

theorem value?_write (h : Fits slots others) (hSlot : (field, value) ∈ slots) :
    field.value? (write slots others) = value := by
  rw [Field.value?, given?_write h hSlot]
  cases value <;> rfl

theorem given?_all_write (h : Fits slots others) {slot : Slot} (hSlot : slot ∈ slots)
    (key : String) : (slot.1.given? (write slots others)).all (·.1 != key) = true ↔
      (slot.2 ≠ none → slot.1.jsonName ≠ key) := by
  rw [given?_write h hSlot]
  cases slot.2 <;> simp

/-- What gives none of the fields is read as it was. -/
theorem others_write (h : Fits slots others) :
    Record.others (slots.map (·.1)) (write slots others) = others := by
  -- of the written members, those of the slots give a field and the others give none
  have hWritten : ∀ member ∈ slots.flatMap fun slot => slot.1.member slot.2,
      ¬ ((slots.map (·.1)).all fun field =>
        (field.given? (write slots others)).all (·.1 != member.1)) = true := by
    intro member hMember hAll
    obtain ⟨slot, hSlot, hGiven⟩ := List.mem_flatMap.1 hMember
    rw [List.all_map, List.all_eq_true] at hAll
    obtain ⟨v, hv, rfl⟩ := Option.map_eq_some_iff.1 (Option.mem_toList.1 hGiven)
    exact (given?_all_write h hSlot _).1 (hAll slot hSlot) (by simp [hv]) rfl
  have hOthers : ∀ member ∈ others, ((slots.map (·.1)).all fun field =>
      (field.given? (write slots others)).all (·.1 != member.1)) = true := by
    intro member hMember
    rw [List.all_map, List.all_eq_true]
    intro slot hSlot
    refine (given?_all_write h hSlot _).2 fun _ hName => h.jsonName slot hSlot ?_
    rw [hName]
    exact List.mem_map_of_mem hMember
  have hSplit (p : String × Json → Bool) : (write slots others).filter p =
      (slots.flatMap fun slot => slot.1.member slot.2).filter p ++ others.filter p :=
    List.filter_append ..
  rw [Record.others, hSplit, List.filter_eq_nil_iff.2 hWritten, List.filter_eq_self.2 hOthers,
    List.nil_append]

end

section

variable {slots : List Slot} {members : Members}

theorem distinct_of_given? {field : Field} {key : String} {v : Json}
    (h : ∀ member ∈ members, Json.Throughout Json.HasDistinctKeys member.2)
    (hGiven : field.given? members = some (key, v)) : Json.Throughout Json.HasDistinctKeys v := by
  rw [Field.given?] at hGiven
  split at hGiven
  · rename_i hGet
    obtain rfl := (Prod.mk.inj (Option.some.inj hGiven)).2
    exact .of_get? h hGet
  · obtain ⟨found, hGet, hFound⟩ := Option.map_eq_some_iff.1 hGiven
    obtain rfl := (Prod.mk.inj hFound).2
    exact .of_get? h hGet

theorem distinct_of_value? {field : Field} {v : Json}
    (h : ∀ member ∈ members, Json.Throughout Json.HasDistinctKeys member.2)
    (hValue : field.value? members = some v) : Json.Throughout Json.HasDistinctKeys v := by
  obtain ⟨⟨key, found⟩, hGiven, rfl⟩ := Option.map_eq_some_iff.1 hValue
  exact distinct_of_given? h hGiven

/-- A slot has a value wherever members give its field. -/
structure IsGivenBy (members : Members) (slot : Slot) : Prop where
  given : slot.2 = none → slot.1.given? members = none
  distinct : ∀ v ∈ slot.2, Json.Throughout Json.HasDistinctKeys v

theorem isGivenBy_value? (field : Field)
    (h : ∀ member ∈ members, Json.Throughout Json.HasDistinctKeys member.2) :
    IsGivenBy members (field, field.value? members) where
  given := Option.map_eq_none_iff.1
  distinct _ := distinct_of_value? h

/-- The fields of an object and what gives none of them fit together. -/
theorem fits_others (hApart : AreApart (slots.map (·.1)))
    (hMembers : Json.Throughout Json.HasDistinctKeys (.obj members))
    (hSlots : ∀ slot ∈ slots, IsGivenBy members slot) :
    Fits slots (Record.others (slots.map (·.1)) members) := by
  obtain ⟨hKeys, hInside⟩ := Json.throughout_obj_iff.1 hMembers
  constructor
  case apart => exact hApart
  case jsonName =>
    intro slot hSlot hKey
    obtain ⟨⟨key, v⟩, hMember, rfl⟩ := List.mem_map.1 hKey
    obtain ⟨hMem, hGiven⟩ := List.mem_filter.1 hMember
    rw [List.all_map, List.all_eq_true] at hGiven
    have hSelf := hGiven slot hSlot
    simp [Field.given?, Members.get?_of_mem hKeys hMem] at hSelf
  case name =>
    intro slot hSlot hAbsent hKey
    obtain ⟨⟨key, v⟩, hMember, rfl⟩ := List.mem_map.1 hKey
    have hGet := Members.get?_of_mem hKeys (List.mem_filter.1 hMember).1
    rw [(Field.given?_eq_none_iff.1 ((hSlots slot hSlot).given hAbsent)).2] at hGet
    cases hGet
  case values => exact fun slot hSlot => (hSlots slot hSlot).distinct
  case others =>
    refine Json.throughout_obj_iff.2 ⟨hKeys.sublist (List.filter_sublist.map _), ?_⟩
    intro member hMember
    exact hInside member (List.mem_filter.1 hMember).1

end

section

variable {slots : List Slot} {others : Members}

/-- The slot with all its numbers finite. -/
def finiteSlot (slot : Slot) : Slot := (slot.1, slot.2.map Json.finite)

theorem finiteSlot_fields (slots : List Slot) :
    (slots.map finiteSlot).map (·.1) = slots.map (·.1) := by
  rw [List.map_map]
  rfl

/-- Replacing numbers in a written record is replacing them in its parts. -/
theorem finite_write (slots : List Slot) (others : Members) :
    (Json.obj (write slots others)).finite =
      .obj (write (slots.map finiteSlot) (Json.finiteMembers others)) := by
  have hMember : ∀ slot : Slot, (slot.1.member slot.2).map (fun member => (member.1, member.2.finite)) =
      slot.1.member (slot.2.map Json.finite) := by
    intro slot
    cases hValue : slot.2 <;> simp [Field.member]
  rw [Json.finite, Json.finiteMembers_eq_map, Json.finiteMembers_eq_map, write, write,
    List.map_append, List.map_flatMap, List.flatMap_map]
  simp only [hMember]
  rfl

theorem Fits.finite (h : Fits slots others) :
    Fits (slots.map finiteSlot) (Json.finiteMembers others) := by
  constructor
  case apart =>
    rw [finiteSlot_fields]
    exact h.apart
  case jsonName =>
    intro slot hSlot
    obtain ⟨before, hBefore, rfl⟩ := List.mem_map.1 hSlot
    rw [Json.keys_finiteMembers]
    exact h.jsonName before hBefore
  case name =>
    intro slot hSlot hNone
    obtain ⟨before, hBefore, rfl⟩ := List.mem_map.1 hSlot
    rw [Json.keys_finiteMembers]
    exact h.name before hBefore (Option.map_eq_none_iff.1 hNone)
  case values =>
    intro slot hSlot v hv
    obtain ⟨before, hBefore, rfl⟩ := List.mem_map.1 hSlot
    obtain ⟨old, hOld, rfl⟩ := Option.map_eq_some_iff.1 hv
    exact (h.values before hBefore old hOld).finite fun _ => Json.HasDistinctKeys.finite
  case others => exact h.others.finite fun _ => Json.HasDistinctKeys.finite

end

end Record

end ReportPress
