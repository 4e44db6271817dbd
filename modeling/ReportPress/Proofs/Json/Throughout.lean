import Mathlib.Algebra.Group.Nat.Defs
import ReportPress.Json.Printer
import ReportPress.Proofs.Json.Members
import ReportPress.Proofs.Text.Numeral

/-!
Properties that hold throughout a JSON value: of the value and of everything in it. What replacing
the numbers that are not finite does to them is told by what it does to single values. Main
statements: `Throughout.finite` and `finite_eq_self`.
-/

namespace ReportPress.Json

/-- What stands directly in a value. -/
def parts : Json → List Json
  | .arr items => items
  | .obj members => members.map (·.2)
  | _ => []

theorem sizeOf_lt_of_mem_parts {part value : Json} (h : part ∈ value.parts) :
    sizeOf part < sizeOf value := by
  cases value with
  | arr items =>
    have := List.sizeOf_lt_of_mem (show part ∈ items from h)
    simp only [arr.sizeOf_spec]
    omega
  | obj members =>
    obtain ⟨member, hMember, rfl⟩ := List.mem_map.1 (show part ∈ members.map (·.2) from h)
    have := Members.sizeOf_lt_of_mem (show (member.1, member.2) ∈ members from hMember)
    simp only [obj.sizeOf_spec]
    omega
  | _ => cases h

/-- What holds of a value if it holds of all that stands in it holds of every value. -/
theorem parts_induction {motive : Json → Prop}
    (step : ∀ value, (∀ part ∈ value.parts, motive part) → motive value) (value : Json) :
    motive value :=
  step value fun part _ => parts_induction step part
termination_by sizeOf value
decreasing_by exact sizeOf_lt_of_mem_parts ‹_›

/-- The property holds of the value and of everything in it. -/
inductive Throughout (p : Json → Prop) : Json → Prop
  | intro {value : Json} (holds : p value) (inside : ∀ part ∈ value.parts, Throughout p part) :
    Throughout p value

section

variable {p q : Json → Prop} {value : Json}

theorem throughout_iff :
    Throughout p value ↔ p value ∧ ∀ part ∈ value.parts, Throughout p part :=
  ⟨fun ⟨holds, inside⟩ => ⟨holds, inside⟩, fun ⟨holds, inside⟩ => ⟨holds, inside⟩⟩

theorem throughout_single_iff (h : value.parts = []) : Throughout p value ↔ p value := by
  rw [throughout_iff, h]
  simp

theorem throughout_arr_iff {items : List Json} :
    Throughout p (.arr items) ↔ p (.arr items) ∧ ∀ item ∈ items, Throughout p item :=
  throughout_iff

theorem Throughout.mono (h : Throughout p value) (hImp : ∀ value, p value → q value) :
    Throughout q value := by
  induction h with
  | intro holds _ ih => exact ⟨hImp _ holds, ih⟩

theorem throughout_obj_iff {members : Members} :
    Throughout p (.obj members) ↔
      p (.obj members) ∧ ∀ member ∈ members, Throughout p member.2 := by
  rw [throughout_iff, parts]
  simp only [List.forall_mem_map]

theorem Throughout.of_get? {members : Members} {key : String}
    (h : ∀ member ∈ members, Throughout p member.2) (hGet : members.get? key = some value) :
    Throughout p value :=
  h _ (Members.mem_of_get? hGet)

theorem parts_finite (value : Json) : value.finite.parts = value.parts.map finite := by
  cases value with
  | float x =>
    rw [finite]
    split <;> rfl
  | arr items => simp only [finite, parts, finiteItems_eq_map]
  | obj members => simp [finite, parts, finiteMembers_eq_map]
  | _ => rfl

/-- What replacing keeps of single values it keeps throughout. -/
theorem Throughout.finite (h : Throughout p value) (hKeeps : ∀ value, p value → q value.finite) :
    Throughout q value.finite := by
  induction h with
  | intro holds inside ih =>
    refine ⟨hKeeps _ holds, fun part hPart => ?_⟩
    rw [parts_finite] at hPart
    obtain ⟨before, hBefore, rfl⟩ := List.mem_map.1 hPart
    exact ih before hBefore

/-- What replacing does not bring about of single values it does not bring about throughout. -/
theorem Throughout.of_finite (hValue : Throughout q value.finite)
    (hReflects : ∀ value, q value.finite → p value) : Throughout p value := by
  induction value using parts_induction with
  | step value ih =>
    obtain ⟨holds, inside⟩ := throughout_iff.1 hValue
    rw [parts_finite, List.forall_mem_map] at inside
    exact ⟨hReflects value holds, fun part hPart => ih part hPart (inside part hPart)⟩

end

mutual

/-- Whether the test succeeds for the value and for everything in it. -/
def passes (test : Json → Bool) : Json → Bool
  | .arr items => test (.arr items) && itemsPass test items
  | .obj members => test (.obj members) && membersPass test members
  | value => test value

/-- `passes` of each item. -/
def itemsPass (test : Json → Bool) : List Json → Bool
  | [] => true
  | item :: rest => passes test item && itemsPass test rest

/-- `passes` of each member's value. -/
def membersPass (test : Json → Bool) : List (String × Json) → Bool
  | [] => true
  | (_, value) :: rest => passes test value && membersPass test rest

end

section

variable {p : Json → Prop} [DecidablePred p]

theorem itemsPass_eq_all (test : Json → Bool) (items : List Json) :
    itemsPass test items = items.all (passes test) := by
  induction items with
  | nil => rfl
  | cons item rest ih => rw [itemsPass, ih, List.all_cons]

theorem membersPass_eq_all (test : Json → Bool) (members : Members) :
    membersPass test members = members.all fun member => passes test member.2 := by
  induction members with
  | nil => rfl
  | cons member rest ih => rw [membersPass, ih, List.all_cons]

theorem passes_iff (value : Json) : passes (p ·) value = true ↔ Throughout p value := by
  induction value using parts_induction with
  | step value ih =>
    cases value with
    | arr items =>
      rw [passes, itemsPass_eq_all, Bool.and_eq_true, decide_eq_true_eq, List.all_eq_true,
        throughout_arr_iff]
      exact and_congr_right fun _ => forall₂_congr ih
    | obj members =>
      rw [passes, membersPass_eq_all, Bool.and_eq_true, decide_eq_true_eq, List.all_eq_true,
        throughout_obj_iff]
      exact and_congr_right fun _ => forall₂_congr fun member hMember =>
        ih member.2 (List.mem_map_of_mem hMember)
    | _ =>
      rw [throughout_single_iff rfl]
      exact decide_eq_true_iff

instance : DecidablePred (Throughout p) := fun value => decidable_of_iff _ (passes_iff value)

end

/-- The keys of an object are all different. -/
def HasDistinctKeys : Json → Prop
  | .obj members => (Members.keys members).Nodup
  | _ => True

instance : DecidablePred HasDistinctKeys
  | .obj members => inferInstanceAs (Decidable (Members.keys members).Nodup)
  | .null | .bool _ | .int _ | .float _ | .str _ | .arr _ => .isTrue trivial

/-- A whole number has few enough digits to be written. -/
def HasFewDigits : Json → Prop
  | .int n => n.natAbs.repr.length ≤ Text.digitLimit
  | _ => True

instance : DecidablePred HasFewDigits
  | .int n => inferInstanceAs (Decidable (n.natAbs.repr.length ≤ Text.digitLimit))
  | .null | .bool _ | .float _ | .str _ | .arr _ | .obj _ => .isTrue trivial

/-- The least number that has too many digits to be written. -/
def longNumber : Nat := 10 ^ Text.digitLimit

theorem not_isShort_longNumber : Text.isShort longNumber = false := by
  rw [Text.isShort, Int.natAbs_natCast, decide_eq_false_iff_not, Nat.length_repr_le_iff (by decide)]
  exact Nat.lt_irrefl _

theorem not_hasFewDigits_longNumber : ¬ HasFewDigits (.int longNumber) :=
  of_decide_eq_false not_isShort_longNumber

/-- A whole number is written in few enough characters to be read in a record, where a minus sign is
one of them. -/
def HasShortNumerals : Json → Prop
  | .int n => (Text.intChars n).length ≤ Text.digitLimit
  | _ => True

instance : DecidablePred HasShortNumerals
  | .int n => inferInstanceAs (Decidable ((Text.intChars n).length ≤ Text.digitLimit))
  | .null | .bool _ | .float _ | .str _ | .arr _ | .obj _ => .isTrue trivial

/-- A number is neither infinite nor a not-a-number. -/
def IsFiniteNumber : Json → Prop
  | .float x => x.isFinite = true
  | _ => True

/-- A value with nothing in it has no keys that could be the same. -/
theorem distinct_of_parts_nil {value : Json} (h : value.parts = []) :
    Throughout HasDistinctKeys value := by
  rw [throughout_single_iff h]
  cases value with
  | obj members =>
    rw [HasDistinctKeys, Members.keys, List.map_eq_nil_iff.1 h]
    exact List.nodup_nil
  | _ => trivial

theorem keys_finiteMembers (members : Members) :
    Members.keys (finiteMembers members) = Members.keys members := by
  rw [finiteMembers_eq_map, Members.keys, List.map_map]
  rfl

theorem HasDistinctKeys.finite {value : Json} (h : HasDistinctKeys value) :
    HasDistinctKeys value.finite := by
  cases value with
  | float x =>
    rw [Json.finite]
    split <;> trivial
  | obj members =>
    rw [Json.finite, HasDistinctKeys, keys_finiteMembers]
    exact h
  | _ => trivial

theorem HasFewDigits.finite {value : Json} (h : HasFewDigits value) :
    HasFewDigits value.finite := by
  cases value with
  | float x =>
    rw [Json.finite]
    split <;> trivial
  | int n => exact h
  | _ => trivial

theorem HasShortNumerals.finite {value : Json} (h : HasShortNumerals value) :
    HasShortNumerals value.finite := by
  cases value with
  | float x =>
    rw [Json.finite]
    split <;> trivial
  | int n => exact h
  | _ => trivial

theorem HasShortNumerals.hasFewDigits {value : Json} (h : HasShortNumerals value) :
    HasFewDigits value := by
  cases value with
  | int n =>
    rw [HasShortNumerals, Text.length_intChars] at h
    exact Nat.le_trans (Nat.le_add_right _ _) h
  | _ => trivial

theorem HasShortNumerals.of_finite {value : Json} (h : HasShortNumerals value.finite) :
    HasShortNumerals value := by
  cases value with
  | int n => exact h
  | _ => trivial

theorem HasFewDigits.of_finite {value : Json} (h : HasFewDigits value.finite) :
    HasFewDigits value := by
  cases value with
  | int n => exact h
  | _ => trivial

theorem finite_eq_self {value : Json} (h : Throughout IsFiniteNumber value) :
    value.finite = value := by
  induction h with
  | @intro value holds inside ih =>
    cases value with
    | float x => exact if_pos holds
    | arr items =>
      have hItems : items.map finite = items.map id := List.map_congr_left ih
      rw [finite, finiteItems_eq_map, hItems, List.map_id]
    | obj members =>
      have hMembers : members.map (fun member => (member.1, member.2.finite)) = members.map id :=
        List.map_congr_left fun member hMember =>
          Prod.ext rfl (ih member.2 (List.mem_map_of_mem hMember))
      rw [finite, finiteMembers_eq_map, hMembers, List.map_id]
    | _ => rfl

theorem areItemsWritable_eq_all (items : List Json) :
    areItemsWritable items = items.all isWritable := by
  induction items with
  | nil => rfl
  | cons item rest ih => rw [areItemsWritable, ih, List.all_cons]

theorem areMembersWritable_eq_all (members : Members) :
    areMembersWritable members = members.all (·.2.isWritable) := by
  induction members with
  | nil => rfl
  | cons member rest ih => rw [areMembersWritable, ih, List.all_cons]

/-- A value can be written if all its whole numbers have few enough digits. -/
theorem isWritable_iff (value : Json) :
    value.isWritable = true ↔ Throughout HasFewDigits value := by
  induction value using parts_induction with
  | step value ih =>
    cases value with
    | int n =>
      rw [isWritable, Text.isShort, decide_eq_true_eq, throughout_single_iff rfl, HasFewDigits]
    | arr items =>
      rw [isWritable, areItemsWritable_eq_all, List.all_eq_true, throughout_arr_iff]
      simp only [HasFewDigits, true_and]
      exact forall₂_congr ih
    | obj members =>
      rw [isWritable, areMembersWritable_eq_all, List.all_eq_true, throughout_obj_iff]
      simp only [HasFewDigits, true_and]
      exact forall₂_congr fun member hMember => ih member.2 (List.mem_map_of_mem hMember)
    | _ =>
      rw [throughout_single_iff rfl]
      exact ⟨fun _ => trivial, fun _ => rfl⟩

end ReportPress.Json
