import ReportPress.Proofs.Except
import ReportPress.Proofs.Json.Nesting
import ReportPress.Proofs.Json.Numeral

/-!
JSON that was read. A member whose key was there before takes the place of the earlier one, so that
the keys of every object are all different; no whole number has more digits than can be written, and
a record nests no deeper than the reader allows. Main statements: `distinct_of_read`,
`hasFewDigits_of_read`, `nesting_of_read` and `IsDenoted.hasFewDigits`.
-/

namespace ReportPress

namespace Members

theorem nodup_keys_put {members : Members} (key : String) (value : Json)
    (h : (keys members).Nodup) : (keys (put key value members)).Nodup := by
  by_cases hMem : key ∈ keys members
  · rw [keys_put_of_mem value hMem]
    exact h
  · rw [put_of_notMem value hMem, keys, List.map_append]
    refine List.nodup_append.2 ⟨h, List.pairwise_singleton _ _, ?_⟩
    intro k hk last hLast hEq
    obtain rfl := List.mem_singleton.1 hLast
    exact hMem (hEq ▸ hk)

theorem mem_put {members : Members} {key : String} {value : Json} {member : String × Json}
    (h : member ∈ put key value members) : member = (key, value) ∨ member ∈ members := by
  induction members with
  | nil => exact .inl (List.mem_singleton.1 h)
  | cons first rest ih =>
    obtain ⟨k, v⟩ := first
    rw [put] at h
    split at h
    · rcases List.mem_cons.1 h with hPut | hRest
      · exact .inl hPut
      · exact .inr (List.mem_cons_of_mem _ hRest)
    · rcases List.mem_cons.1 h with rfl | hRest
      · exact .inr List.mem_cons_self
      · exact (ih hRest).imp id (List.mem_cons_of_mem _)

end Members

namespace Json

/-- The keys of every object are different, no number is too long, and there is room for all. -/
structure IsAdmitted (limits : Limits) (room : Nat) (value : Json) : Prop where
  distinct : Throughout HasDistinctKeys value
  takes : Throughout limits.Takes value
  nesting_le : value.nesting ≤ room

/-- Members whose keys are all different and whose values are admitted. -/
structure AreAdmitted (limits : Limits) (room : Nat) (members : Members) : Prop where
  nodup : (Members.keys members).Nodup
  value : ∀ member ∈ members, IsAdmitted limits room member.2

section

variable {limits : Limits} {room : Nat}

theorem isAdmitted_single {value : Json} (hParts : value.parts = [])
    (hTakes : limits.Takes value) : IsAdmitted limits room value where
  distinct := distinct_of_parts_nil hParts
  takes := (throughout_single_iff hParts).2 hTakes
  nesting_le := nesting_le_iff.2 (by simp [hParts])

theorem isAdmitted_arr {items : List Json} (h : ∀ item ∈ items, IsAdmitted limits room item) :
    IsAdmitted limits (room + 1) (.arr items) where
  distinct := throughout_arr_iff.2 ⟨trivial, fun item hItem => (h item hItem).distinct⟩
  takes := throughout_arr_iff.2 ⟨trivial, fun item hItem => (h item hItem).takes⟩
  nesting_le := nesting_le_iff.2 fun item hItem => Nat.lt_succ_of_le (h item hItem).nesting_le

theorem AreAdmitted.isAdmitted_obj {members : Members} (h : AreAdmitted limits room members) :
    IsAdmitted limits (room + 1) (.obj members) where
  distinct := throughout_obj_iff.2 ⟨h.nodup, fun member hMember => (h.value member hMember).distinct⟩
  takes := throughout_obj_iff.2 ⟨trivial, fun member hMember => (h.value member hMember).takes⟩
  nesting_le := nesting_le_iff.2 <| List.forall_mem_map.2 fun member hMember =>
    Nat.lt_succ_of_le (h.value member hMember).nesting_le

theorem areAdmitted_nil : AreAdmitted limits room [] where
  nodup := List.nodup_nil
  value := List.forall_mem_nil _

theorem AreAdmitted.put {members : Members} {value : Json} (key : String)
    (hMembers : AreAdmitted limits room members) (hValue : IsAdmitted limits room value) :
    AreAdmitted limits room (members.put key value) := by
  refine ⟨Members.nodup_keys_put key value hMembers.1, fun member hMember => ?_⟩
  rcases Members.mem_put hMember with rfl | hOld
  · exact hValue
  · exact hMembers.value member hOld

end

namespace Reader

theorem inside_eq_ok_iff {α : Type} {room left : Nat} {read : Nat → Except Stop α} {a : α} :
    inside room left read = .ok a ↔ ∃ inner, room = inner + 1 ∧ read inner = .ok a := by
  cases room with
  | zero => simp [inside]
  | succ inner => simp [inside]

variable {limits : Limits} {room : Nat} {cs left : List Char}

theorem isDigit_of_mem_takeWhile {c : Char} (h : c ∈ cs.takeWhile Char.isDigit) :
    c.isDigit = true :=
  List.all_eq_true.1 List.all_takeWhile c h

/-- The value of digits has no more digits than were read. -/
theorem takes_of_digits {negative : Bool} {whole : List Char}
    (hWhole : ∀ c ∈ whole, c.isDigit = true) (hNil : whole ≠ [])
    (hLength : limits.isTooLong true negative whole.length = false) :
    limits.Takes (.int (if negative then -(Nat.ofDigitChars 10 whole 0 : Int)
      else Nat.ofDigitChars 10 whole 0)) := by
  have hDigits := Text.length_repr_ofDigitChars hWhole (List.length_pos_iff.2 hNil) (Nat.le_refl _)
  generalize Nat.ofDigitChars 10 whole 0 = size at hDigits ⊢
  have hShorter := Limits.isTooLong_mono hDigits hLength
  cases negative with
  | false =>
    have hSign : ¬ (size : Int) < 0 := by omega
    simpa [Limits.Takes, hSign] using hShorter
  | true =>
    by_cases hZero : size = 0
    · subst hZero
      cases limits <;> rfl
    · simpa [Limits.Takes, Nat.pos_of_ne_zero hZero] using hShorter

theorem isAdmitted_of_numberAfter {negative : Bool} {whole : List Char} {v : Json}
    (hWhole : ∀ c ∈ whole, c.isDigit = true) (hNil : whole ≠ [])
    (h : numberAfter limits negative whole cs = .ok (v, left)) : IsAdmitted limits room v := by
  simp only [numberAfter] at h
  split at h
  · cases h
  · rename_i hLength
    split at h
    · rename_i hIsWhole
      rw [hIsWhole, Bool.not_eq_true] at hLength
      cases h
      exact isAdmitted_single rfl (takes_of_digits hWhole hNil hLength)
    · cases h
      exact isAdmitted_single rfl trivial

theorem isAdmitted_of_number {v : Json} (h : number limits cs = .ok (v, left)) :
    IsAdmitted limits room v := by
  simp only [number] at h
  split at h
  · exact isAdmitted_of_numberAfter (List.forall_mem_singleton.2 rfl) (List.cons_ne_nil _ _) h
  · rename_i hBody
    split at h
    · rename_i hDigit
      refine isAdmitted_of_numberAfter (fun c => isDigit_of_mem_takeWhile) ?_ h
      rw [hBody, List.takeWhile_cons_of_pos hDigit]
      exact List.cons_ne_nil _ _
    · cases h
  · cases h

theorem isAdmitted_of_scalar {v : Json} (h : scalar limits cs = .ok (v, left)) :
    IsAdmitted limits room v := by
  unfold scalar at h
  split at h
  case h_7 => exact isAdmitted_of_number h
  all_goals
    cases h
    exact isAdmitted_single rfl trivial

/-- What is read with a bound on the steps is admitted. -/
structure ReadsAdmitted (limits : Limits) (fuel : Nat) : Prop where
  value : ∀ room cs v left, value limits fuel room cs = .ok (v, left) → IsAdmitted limits room v
  items : ∀ room cs list left, items limits fuel room cs = .ok (list, left) →
    ∀ item ∈ list, IsAdmitted limits room item
  members : ∀ room before cs found left, members limits fuel room before cs = .ok (found, left) →
    AreAdmitted limits room before → AreAdmitted limits room found

section

variable {fuel : Nat} (ih : ReadsAdmitted limits fuel)
include ih

theorem isAdmitted_of_value_succ {v : Json}
    (h : value limits (fuel + 1) room cs = .ok (v, left)) : IsAdmitted limits room v := by
  unfold value at h
  split at h
  · obtain ⟨found, -, hFound⟩ := Except.map_eq_ok_iff.1 h
    obtain rfl := (Prod.mk.inj hFound).1
    exact isAdmitted_single rfl trivial
  · split at h
    · cases h
      exact isAdmitted_single rfl trivial
    · obtain ⟨found, hInside, hFound⟩ := Except.map_eq_ok_iff.1 h
      obtain rfl := (Prod.mk.inj hFound).1
      obtain ⟨inner, rfl, hItems⟩ := inside_eq_ok_iff.1 hInside
      exact isAdmitted_arr (ih.items _ _ _ _ hItems)
  · split at h
    · cases h
      exact isAdmitted_single rfl trivial
    · obtain ⟨found, hInside, hFound⟩ := Except.map_eq_ok_iff.1 h
      obtain rfl := (Prod.mk.inj hFound).1
      obtain ⟨inner, rfl, hMembers⟩ := inside_eq_ok_iff.1 hInside
      exact (ih.members _ _ _ _ _ hMembers areAdmitted_nil).isAdmitted_obj
  · exact isAdmitted_of_scalar h

theorem isAdmitted_of_items_succ {list : List Json}
    (h : items limits (fuel + 1) room cs = .ok (list, left)) :
    ∀ item ∈ list, IsAdmitted limits room item := by
  rw [items] at h
  obtain ⟨⟨item, rest⟩, hItem, h⟩ := Except.bind_eq_ok_iff.1 h
  dsimp only at h
  split at h
  · cases h
    exact fun v hv => List.mem_singleton.1 hv ▸ ih.value _ _ _ _ hItem
  · obtain ⟨⟨others, rest⟩, hOthers, h⟩ := Except.bind_eq_ok_iff.1 h
    cases h
    intro v hv
    rcases List.mem_cons.1 hv with rfl | hRest
    · exact ih.value _ _ _ _ hItem
    · exact ih.items _ _ _ _ hOthers v hRest
  · cases h

theorem areAdmitted_of_members_succ {before found : Members}
    (h : members limits (fuel + 1) room before cs = .ok (found, left))
    (hBefore : AreAdmitted limits room before) : AreAdmitted limits room found := by
  unfold members at h
  split at h
  · obtain ⟨⟨key, rest⟩, -, h⟩ := Except.bind_eq_ok_iff.1 h
    dsimp only at h
    split at h
    · obtain ⟨⟨item, rest⟩, hItem, h⟩ := Except.bind_eq_ok_iff.1 h
      have hKnown := hBefore.put (String.ofList key) (ih.value _ _ _ _ hItem)
      dsimp only at h
      split at h
      · cases h
        exact hKnown
      · exact ih.members _ _ _ _ _ h hKnown
      · cases h
    · cases h
  · cases h

end

theorem readsAdmitted (limits : Limits) (fuel : Nat) : ReadsAdmitted limits fuel := by
  induction fuel with
  | zero =>
    constructor
    · intro room cs v left h
      cases h
    · intro room cs list left h
      cases h
    · intro room before cs found left h
      cases h
  | succ fuel ih =>
    constructor
    · intro room cs v left h
      exact isAdmitted_of_value_succ ih h
    · intro room cs list left h
      exact isAdmitted_of_items_succ ih h
    · intro room before cs found left h hBefore
      exact areAdmitted_of_members_succ ih h hBefore

end Reader

section

variable {limits : Limits} {text : String} {v : Json}

theorem document_of_read (h : read limits text = .ok v) :
    Reader.document limits text.toList = .ok v := by
  rw [read] at h
  cases hText : Reader.document limits text.toList with
  | error stop =>
    rw [hText] at h
    cases h
  | ok found =>
    rw [hText] at h
    cases h
    rfl

theorem isAdmitted_of_read (h : read limits text = .ok v) :
    IsAdmitted limits (limits.room text.toList.length) v := by
  have hDocument := document_of_read h
  rw [Reader.document] at hDocument
  split at hDocument
  · cases hDocument
  · obtain ⟨⟨found, left⟩, hValue, hDocument⟩ := Except.bind_eq_ok_iff.1 hDocument
    dsimp only at hDocument
    split at hDocument
    · cases hDocument
      exact (Reader.readsAdmitted limits _).value _ _ _ _ hValue
    · cases hDocument

/-- The keys of every object in JSON text are different. -/
theorem distinct_of_read (h : read limits text = .ok v) : Throughout HasDistinctKeys v :=
  (isAdmitted_of_read h).distinct

/-- Every whole number in JSON text has few enough digits to be written. -/
theorem hasFewDigits_of_read (h : read limits text = .ok v) : Throughout HasFewDigits v := by
  refine (isAdmitted_of_read h).takes.mono fun value hTakes => ?_
  cases limits with
  | documents => exact Limits.takes_documents_iff.1 hTakes
  | records => exact (Limits.takes_records_iff.1 hTakes).hasFewDigits

/-- Some JSON text, as a document or as a record, is read as the value. -/
def IsDenoted (v : Json) : Prop := ∃ limits text, read limits text = .ok v

theorem IsDenoted.distinct (h : v.IsDenoted) : Throughout HasDistinctKeys v := by
  obtain ⟨limits, text, hRead⟩ := h
  exact distinct_of_read hRead

theorem IsDenoted.hasFewDigits (h : v.IsDenoted) : Throughout HasFewDigits v := by
  obtain ⟨limits, text, hRead⟩ := h
  exact hasFewDigits_of_read hRead

end

end Json

end ReportPress
