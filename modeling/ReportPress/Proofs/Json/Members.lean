import ReportPress.Json

/-!
The members of an object under their keys: what dropping a key and putting a value do to the keys
and to the values of the others.
-/

namespace ReportPress

namespace Members

@[simp] theorem get?_nil (key : String) : get? [] key = none := rfl

@[simp] theorem get?_cons (k key : String) (value : Json) (rest : Members) :
    get? ((k, value) :: rest) key = if key = k then some value else get? rest key := by
  by_cases h : key = k
  · simp [get?, h]
  · have hFalse : (key == k) = false := by simpa using h
    simp [get?, List.lookup_cons, h, hFalse]

theorem keys_erase (members : Members) (key : String) :
    keys (erase members key) = (keys members).filter (· != key) := by
  simp only [keys, erase, List.filter_map]
  rfl

theorem notMem_keys_erase (members : Members) (key : String) : key ∉ keys (erase members key) := by
  simp [keys_erase]

theorem erase_of_notMem {members : Members} {key : String} (h : key ∉ keys members) :
    erase members key = members := by
  refine List.filter_eq_self.2 fun member hMember => ?_
  have : member.1 ≠ key := fun hKey => h (hKey ▸ List.mem_map_of_mem hMember)
  simpa using this

theorem get?_erase_of_ne (members : Members) {key other : String} (h : other ≠ key) :
    get? (erase members key) other = get? members other := by
  induction members with
  | nil => rfl
  | cons member rest ih =>
    obtain ⟨k, v⟩ := member
    by_cases hk : k = key
    · rw [show erase ((k, v) :: rest) key = erase rest key by simp [erase, hk], ih]
      simp [hk, h]
    · rw [show erase ((k, v) :: rest) key = (k, v) :: erase rest key by simp [erase, hk]]
      simp [ih]

theorem mem_of_get? {members : Members} {key : String} {value : Json}
    (h : get? members key = some value) : (key, value) ∈ members := by
  induction members with
  | nil => simp at h
  | cons member rest ih =>
    obtain ⟨k, v⟩ := member
    rw [get?_cons] at h
    split at h
    · rename_i hk
      simp_all
    · exact List.mem_cons_of_mem _ (ih h)

theorem mem_keys_of_get? {members : Members} {key : String} {value : Json}
    (h : get? members key = some value) : key ∈ keys members :=
  List.mem_map_of_mem (mem_of_get? h)

theorem get?_eq_none {members : Members} {key : String} (h : key ∉ keys members) :
    get? members key = none := by
  cases hGet : get? members key with
  | none => rfl
  | some value => exact absurd (mem_keys_of_get? hGet) h

/-- Where keys are all different, every member is found under its key. -/
theorem get?_of_mem {members : Members} {key : String} {value : Json} (hKeys : (keys members).Nodup)
    (h : (key, value) ∈ members) : get? members key = some value := by
  induction members with
  | nil => cases h
  | cons member rest ih =>
    obtain ⟨hNew, hRest⟩ := List.nodup_cons.1 hKeys
    rw [get?_cons]
    rcases List.mem_cons.1 h with rfl | hMem
    · exact if_pos rfl
    · have hNe : key ≠ member.1 := by
        rintro rfl
        exact hNew (List.mem_map.2 ⟨_, hMem, rfl⟩)
      rw [if_neg hNe]
      exact ih hRest hMem

theorem keys_put_of_mem {members : Members} {key : String} (value : Json)
    (h : key ∈ keys members) : keys (put key value members) = keys members := by
  induction members with
  | nil => simp [keys] at h
  | cons member rest ih =>
    obtain ⟨k, v⟩ := member
    simp only [put]
    split
    · rename_i hk
      simp [keys, hk]
    · rename_i hk
      have hRest : key ∈ keys rest := by
        rcases List.mem_cons.1 h with hHead | hRest
        · exact absurd hHead.symm hk
        · exact hRest
      simp only [keys, List.map_cons] at ih ⊢
      rw [ih hRest]

/-- Where keys are all different, none stands in front of itself. -/
theorem notMem_keys_of_nodup {before rest : Members} {key : String} {value : Json}
    (h : (keys (before ++ (key, value) :: rest)).Nodup) : key ∉ keys before := by
  rw [keys, List.map_append, List.nodup_append] at h
  exact fun hMem => h.2.2 _ hMem _ List.mem_cons_self rfl

theorem put_of_notMem {members : Members} {key : String} (value : Json)
    (h : key ∉ keys members) : put key value members = members ++ [(key, value)] := by
  induction members with
  | nil => rfl
  | cons member rest ih =>
    obtain ⟨k, v⟩ := member
    simp only [keys, List.map_cons, List.mem_cons, not_or] at h
    rw [put, if_neg (Ne.symm h.1), ih h.2, List.cons_append]

theorem put_of_get? {members : Members} {key : String} {value : Json}
    (h : get? members key = some value) : put key value members = members := by
  induction members with
  | nil => simp at h
  | cons member rest ih =>
    obtain ⟨k, v⟩ := member
    rw [get?_cons] at h
    simp only [put]
    split at h
    · rename_i hk
      cases h
      simp [hk]
    · rename_i hk
      rw [if_neg (Ne.symm hk), ih h]

end Members

end ReportPress
