import ReportPress.Text.UpperCase

/-!
Spellings that keep the marks of a path. A spelling replaces each character by one or more; upper
case is one, and it neither loses nor makes a slash or a point. Main statement:
`keepsMarks_upperChar`.
-/

namespace ReportPress.Text

/-- The characters that divide a path into names and give some of these a meaning. -/
def pathMarks : List Char := ['/', '.']

theorem forall_mem_pathMarks {P : Char → Prop} : (∀ mark ∈ pathMarks, P mark) ↔ P '/' ∧ P '.' := by
  rw [pathMarks, List.forall_mem_cons, List.forall_mem_singleton]

/-- The marks stay as they are, and no other character becomes one. -/
structure KeepsMarks (image : Char → List Char) : Prop where
  ne_nil : ∀ c, image c ≠ []
  eq_self : ∀ mark ∈ pathMarks, image mark = [mark]
  notMem : ∀ mark ∈ pathMarks, ∀ c, c ≠ mark → mark ∉ image c

/-- A text with each character spelled anew. -/
def spelled (image : Char → List Char) (s : String) : String :=
  String.ofList (s.toList.flatMap image)

@[simp] theorem toList_spelled (image : Char → List Char) (s : String) :
    (spelled image s).toList = s.toList.flatMap image := by
  simp [spelled]

theorem spelled_upperChar (s : String) : spelled upperChar s = upper s := rfl

theorem spelled_singleton (s : String) : spelled (fun c => [c]) s = s := by
  simp [spelled]

theorem keepsMarks_singleton : KeepsMarks fun c => [c] where
  ne_nil c := List.cons_ne_nil c []
  eq_self _ _ := rfl
  notMem _ _ _ h := mt List.mem_singleton.1 h.symm

theorem ofNat_ne_mark {code : Nat} {mark : Char} (hPos : 0 < mark.toNat) (h : mark.toNat < code) :
    Char.ofNat code ≠ mark := by
  by_cases hValid : code.isValidChar
  · rw [Char.ofNat, dif_pos hValid]
    rintro rfl
    exact Nat.lt_irrefl code h
  · rw [Char.ofNat, dif_neg hValid]
    rintro rfl
    exact absurd hPos (by decide)

/-- A character becomes what its entry in the table gives, or one character of a run, or it stays. -/
theorem upperChar_cases {P : List Char → Prop} (c : Char)
    (expanding : ∀ entry ∈ expandingCases, P (entry.2.map Char.ofNat))
    (shifted : ∀ run ∈ caseRuns, ∀ offset ≤ run.last - run.first,
      P [Char.ofNat (run.image + offset)])
    (same : P [c]) : P (upperChar c) := by
  rw [upperChar]
  split
  · rename_i codes hLookup
    obtain ⟨front, back, hEntries, -⟩ := List.lookup_eq_some_iff.1 hLookup
    exact expanding (c.toNat, codes) (by simp [hEntries])
  · split
    · rename_i run hFind
      have hCovered := List.find?_some hFind
      simp only [CaseRun.covers, Bool.and_eq_true, decide_eq_true_eq] at hCovered
      exact shifted run (List.mem_of_find?_eq_some hFind) _ (Nat.sub_le_sub_right hCovered.1.2 _)
    · exact same

/-- No character becomes a mark in upper case but the mark itself. -/
theorem mark_notMem_upperChar {c mark : Char} (hPos : 0 < mark.toNat) (hMark : mark.toNat ≤ 47)
    (h : c ≠ mark) : mark ∉ upperChar c := by
  have hExpanding : ∀ entry ∈ expandingCases, ∀ code ∈ entry.2, 47 < code := by decide +kernel
  have hRuns : ∀ run ∈ caseRuns, 47 < run.image := by decide +kernel
  -- all characters that another one becomes have greater codes than the marks
  apply upperChar_cases (P := (mark ∉ ·)) c
  case expanding =>
    intro entry hEntry hMem
    obtain ⟨code, hCode, hEq⟩ := List.mem_map.1 hMem
    exact ofNat_ne_mark hPos (Nat.lt_of_le_of_lt hMark (hExpanding entry hEntry code hCode)) hEq
  case shifted =>
    intro run hRun offset _ hMem
    have hImage := hRuns run hRun
    exact ofNat_ne_mark hPos (by omega) (List.mem_singleton.1 hMem).symm
  case same => exact mt List.mem_singleton.1 h.symm

theorem upperChar_ne_nil (c : Char) : upperChar c ≠ [] := by
  have hExpanding : ∀ entry ∈ expandingCases, entry.2 ≠ [] := by decide +kernel
  apply upperChar_cases (P := (· ≠ [])) c
  case expanding => exact fun entry hEntry => mt List.map_eq_nil_iff.1 (hExpanding entry hEntry)
  case shifted => exact fun _ _ _ _ => List.cons_ne_nil _ _
  case same => exact List.cons_ne_nil _ _

theorem keepsMarks_upperChar : KeepsMarks upperChar where
  ne_nil := upperChar_ne_nil
  eq_self := by
    rw [forall_mem_pathMarks]
    exact ⟨by decide +kernel, by decide +kernel⟩
  notMem := by
    rw [forall_mem_pathMarks]
    exact ⟨fun _ => mark_notMem_upperChar (by decide) (by decide),
      fun _ => mark_notMem_upperChar (by decide) (by decide)⟩

namespace KeepsMarks

variable {image : Char → List Char} (h : KeepsMarks image) {cs points : List Char}
include h

theorem slash_notMem (hSlash : '/' ∉ cs) : '/' ∉ cs.flatMap image := by
  rw [List.mem_flatMap]
  rintro ⟨c, hc, hImage⟩
  refine h.notMem '/' (by decide) c ?_ hImage
  rintro rfl
  exact hSlash hc

theorem flatMap_of_points (hPoints : ∀ c ∈ cs, c = '.') : cs.flatMap image = cs := by
  induction cs with
  | nil => rfl
  | cons c rest ih =>
    obtain ⟨rfl, hRest⟩ := List.forall_mem_cons.1 hPoints
    rw [List.flatMap_cons, h.eq_self '.' (by decide), ih hRest, List.singleton_append]

/-- Only points are spelled as points. -/
theorem flatMap_eq_iff (hPoints : ∀ c ∈ points, c = '.') :
    cs.flatMap image = points ↔ cs = points := by
  constructor
  · intro hEq
    have hOnly : ∀ c ∈ cs, c = '.' := by
      intro c hc
      refine Decidable.byContradiction fun hOther => ?_
      obtain ⟨d, rest, hImage⟩ := List.exists_cons_of_ne_nil (h.ne_nil c)
      have hd : d ∈ image c := by rw [hImage]; exact List.mem_cons_self
      have hPoint := hPoints d (hEq ▸ List.mem_flatMap.2 ⟨c, hc, hd⟩)
      exact h.notMem '.' (by decide) c hOther (hPoint ▸ hd)
    rw [← h.flatMap_of_points hOnly, hEq]
  · rintro rfl
    exact h.flatMap_of_points hPoints

end KeepsMarks

end ReportPress.Text
