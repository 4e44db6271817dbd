import ReportPress.Proofs.Json.Nesting
import ReportPress.Proofs.Record.Shape
import ReportPress.Proofs.Text.Whole

/-!
What is written of a value of a shape is not larger than the value: it nests no deeper, and its
whole numbers have few enough digits if those of the value have. Main statements:
`Shape.Writes.nesting_le` and `Shape.Writes.hasFewDigits`.
-/

namespace ReportPress

namespace Text

/-- The whole numbers of a record's text have few enough digits. -/
theorem isShort_of_plainNumeral {negative : Bool} {cs : List Char} {n : Int}
    (h : plainNumeral negative cs = .value n) : isShort n = true := by
  rw [plainNumeral] at h
  split at h
  · rename_i hPlain
    have hDigits : (∀ c ∈ cs, c.isDigit = true) ∧ cs.length ≤ digitLimit := by
      rcases hPlain with rfl | hPlain
      · exact ⟨List.forall_mem_singleton.2 rfl, by decide⟩
      · simp only [Bool.and_eq_true, List.all_eq_true, decide_eq_true_eq] at hPlain
        exact ⟨hPlain.1.1, hPlain.2⟩
    obtain rfl := WholeNumeral.value.inj h
    have hSize : (if negative then -(Nat.ofDigitChars 10 cs 0 : Int)
        else Nat.ofDigitChars 10 cs 0).natAbs = Nat.ofDigitChars 10 cs 0 := by
      split <;> simp
    rw [isShort, decide_eq_true_eq, hSize]
    exact length_repr_ofDigitChars hDigits.1 (by decide) hDigits.2
  · cases h

theorem isShort_of_wholeNumeral {s : String} {n : Int} (h : wholeNumeral s = .value n) :
    isShort n = true := by
  rw [wholeNumeral] at h
  split at h
  · cases h
  · dsimp only at h
    split at h
    · cases h
    · split at h <;> exact isShort_of_plainNumeral h

end Text

namespace Record

theorem isShort_of_natAbs_lt {n : Int} (h : n.natAbs < wholeLimit) : Text.isShort n = true := by
  have hLimit : wholeLimit ≤ 10 ^ 20 := by decide
  rw [Text.isShort, decide_eq_true_eq]
  refine Nat.le_trans ((Nat.length_repr_le_iff (by decide)).2 (Nat.lt_of_lt_of_le h hLimit)) ?_
  decide

theorem isShort_of_whole {given : Json} {n : Int} (h : whole given = .ok n)
    (hGiven : Json.HasFewDigits given) : Text.isShort n = true := by
  cases given with
  | int m =>
    obtain rfl := Except.ok.inj h
    exact decide_eq_true hGiven
  | bool b =>
    obtain rfl := Except.ok.inj h
    cases b <;> decide
  | float x =>
    rw [whole] at h
    split at h
    · cases h
    · split at h
      · cases h
      · split at h
        · rename_i hShort
          obtain rfl := Except.ok.inj h
          exact isShort_of_natAbs_lt hShort
        · cases h
  | str s =>
    rw [whole] at h
    split at h
    · rename_i hNumeral
      obtain rfl := Except.ok.inj h
      exact Text.isShort_of_wholeNumeral hNumeral
    · cases h
    · cases h
  | _ => cases h

/-- What is written in a record comes of a member that was given. -/
theorem WritesMembers.exists_given {fields : List Field} {Writes : Field → Json → Json → Prop}
    {given written : Members} (h : WritesMembers fields Writes given written)
    {member : String × Json} (hMember : member ∈ written) :
    ∃ source ∈ given, member.2 = source.2.finite ∨
      ∃ field ∈ fields, Writes field source.2 member.2 := by
  obtain ⟨key, value⟩ := member
  have hSame : ∀ {other}, (key, other) ∈ written → other = value := fun hOther =>
    Option.some.inj ((Members.get?_of_mem h.nodup hOther).symm.trans
      (Members.get?_of_mem h.nodup hMember))
  have hKey : key ∈ writtenKeys fields given := h.perm.mem_iff.1 (List.mem_map_of_mem hMember)
  rw [writtenKeys, Members.keys, List.map_map] at hKey
  obtain ⟨source, hSource, hWritten⟩ := List.mem_map.1 hKey
  refine ⟨source, hSource, ?_⟩
  by_cases hDeclared : key ∈ fields.map Field.jsonName
  · obtain ⟨field, hField, rfl⟩ := List.mem_map.1 hDeclared
    obtain ⟨other, hOther, hWrites⟩ := h.declared source hSource field hField hWritten
    exact .inr ⟨field, hField, hSame hOther ▸ hWrites⟩
  · rw [Function.comp_apply] at hWritten
    rw [← hWritten] at hDeclared
    have hOther := h.others source hSource hDeclared
    rw [← writtenKey_of_notMem hDeclared, hWritten] at hOther
    exact .inl (hSame hOther).symm

end Record

namespace Shape

theorem exists_of_mem_right {R : Json → Json → Prop} {items others : List Json} {other : Json}
    (h : List.Forall₂ R items others) (hOther : other ∈ others) : ∃ item ∈ items, R item other := by
  induction h with
  | nil => cases hOther
  | @cons item first _ _ hFirst _ ih =>
    rcases List.mem_cons.1 hOther with rfl | hRest
    · exact ⟨item, List.mem_cons_self, hFirst⟩
    · obtain ⟨found, hFound, hRel⟩ := ih hRest
      exact ⟨found, List.mem_cons_of_mem _ hFound, hRel⟩

variable {shape : Shape} {given written : Json}

/-- What is written nests no deeper than what was given. -/
theorem Writes.nesting_le (h : shape.Writes given written) : written.nesting ≤ given.nesting := by
  induction shape generalizing given written with
  | any =>
    rw [show written = given.finite from h, Json.nesting_finite]
  | whole =>
    obtain ⟨n, -, rfl⟩ := h
    exact Nat.zero_le _
  | nullable shape ih =>
    rcases h with ⟨rfl, rfl⟩ | ⟨-, hWrites⟩
    · exact Nat.le_refl _
    · exact ih hWrites
  | list shape ih =>
    obtain ⟨items, others, rfl, rfl, hItems⟩ := h
    refine Json.nesting_le_iff.2 fun other hOther => ?_
    obtain ⟨item, hItem, hWrites⟩ := exists_of_mem_right hItems hOther
    exact Nat.lt_of_le_of_lt (ih hWrites) (Json.nesting_lt_of_mem_parts hItem)
  | record fields shape ih =>
    obtain ⟨members, others, rfl, rfl, hWrites⟩ := h
    refine Json.nesting_le_iff.2 fun other hOther => ?_
    obtain ⟨member, hMember, rfl⟩ := List.mem_map.1 hOther
    obtain ⟨source, hSource, hWritten⟩ := hWrites.exists_given hMember
    refine Nat.lt_of_le_of_lt ?_ (Json.nesting_lt_of_mem_parts (List.mem_map_of_mem hSource))
    rcases hWritten with hSame | ⟨field, -, hField⟩
    · rw [hSame, Json.nesting_finite]
    · exact ih field hField

/-- The whole numbers that are written have few enough digits if those that were given have. -/
theorem Writes.hasFewDigits (h : shape.Writes given written)
    (hGiven : Json.Throughout Json.HasFewDigits given) :
    Json.Throughout Json.HasFewDigits written := by
  induction shape generalizing given written with
  | any =>
    rw [show written = given.finite from h]
    exact hGiven.finite fun _ => Json.HasFewDigits.finite
  | whole =>
    obtain ⟨n, hRead, rfl⟩ := h
    rw [Json.throughout_single_iff rfl]
    have hShort := Record.isShort_of_whole hRead (Json.throughout_iff.1 hGiven).1
    rwa [Text.isShort, decide_eq_true_eq] at hShort
  | nullable shape ih =>
    rcases h with ⟨rfl, rfl⟩ | ⟨-, hWrites⟩
    · exact hGiven
    · exact ih hWrites hGiven
  | list shape ih =>
    obtain ⟨items, others, rfl, rfl, hItems⟩ := h
    refine Json.throughout_arr_iff.2 ⟨trivial, fun other hOther => ?_⟩
    obtain ⟨item, hItem, hWrites⟩ := exists_of_mem_right hItems hOther
    exact ih hWrites ((Json.throughout_arr_iff.1 hGiven).2 item hItem)
  | record fields shape ih =>
    obtain ⟨members, others, rfl, rfl, hWrites⟩ := h
    refine Json.throughout_obj_iff.2 ⟨trivial, fun member hMember => ?_⟩
    obtain ⟨source, hSource, hWritten⟩ := hWrites.exists_given hMember
    have hFew := (Json.throughout_obj_iff.1 hGiven).2 source hSource
    rcases hWritten with hSame | ⟨field, -, hField⟩
    · rw [hSame]
      exact hFew.finite fun _ => Json.HasFewDigits.finite
    · exact ih field hField hFew

end Shape

end ReportPress
