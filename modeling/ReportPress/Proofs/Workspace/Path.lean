import ReportPress.Proofs.Workspace.Files

/-!
Where paths lead by their names. A text without slashes is one name of a path; it leads to an entry
of the directory in front of it unless it leads up, and different names lead to different places.
Main statements: `Path.append_of_isComponent` and `Workspace.child_child_ne`.
-/

namespace ReportPress

namespace Path

/-- A text that is one name of a path. -/
def IsComponent (s : String) : Prop := '/' ∉ s.toList ∧ isName s.toList = true

instance (s : String) : Decidable (IsComponent s) := inferInstanceAs (Decidable (_ ∧ _))

theorem isComponent_iff {s : String} : IsComponent s ↔ s ≠ "" ∧ s ≠ "." ∧ '/' ∉ s.toList := by
  have hEmpty : s.toList = [] ↔ s = "" := String.toList_eq_nil_iff
  have hPoint : s.toList = ['.'] ↔ s = "." := by
    rw [← String.toList_inj]
    rfl
  rw [IsComponent, isName, Bool.and_eq_true, bne_iff_ne, bne_iff_ne, ne_eq, ne_eq, hEmpty, hPoint,
    and_comm, and_assoc]

theorem append_of_isComponent {s : String} (h : IsComponent s) (path : Path) :
    path.append s = ⟨path.anchor, path.names ++ [s]⟩ := by
  rw [append, names_ofString h.1 h.2, join]

/-- A text that writes more than one name has a slash. -/
theorem slash_mem_of_names {s : String} (h : 1 < (ofString s).names.length) :
    '/' ∈ s.toList := by
  refine Decidable.byContradiction fun hSlash => Nat.not_lt_of_le ?_ h
  rw [ofString, namesOf, splitSlash_of_notMem hSlash, List.length_map]
  exact List.length_filter_le _ _

theorem isName_of_length {part : List Char} (h : 1 < part.length) : isName part = true := by
  rw [isName, Bool.and_eq_true, bne_iff_ne, bne_iff_ne]
  constructor
  · rintro rfl
    exact absurd h (by decide)
  · rintro rfl
    exact absurd h (by decide)

theorem isComponent_extension {s extension : String} (hSlash : '/' ∉ s.toList)
    (hExtension : '/' ∉ extension.toList) (hLong : 1 < extension.toList.length) :
    IsComponent (s ++ extension) := by
  have hLength : 1 < (s ++ extension).toList.length := by
    rw [String.toList_append, List.length_append]
    omega
  refine ⟨?_, isName_of_length hLength⟩
  rw [String.toList_append, List.mem_append]
  exact fun h => h.elim hSlash hExtension

/-- Names in a row have the characters of the names, and a slash between two. -/
theorem mem_intercalate_iff {names : List String} {c : Char} :
    c ∈ ("/".intercalate names).toList ↔
      (∃ name ∈ names, c ∈ name.toList) ∨ c = '/' ∧ 1 < names.length := by
  rw [String.toList_intercalate]
  induction names with
  | nil => simp
  | cons first rest ih =>
    cases rest with
    | nil => simp
    | cons second rest =>
      have hSlash : c ∈ "/".toList ↔ c = '/' := List.mem_singleton
      have hTwo : 1 < (first :: second :: rest).length := Nat.succ_lt_succ (Nat.succ_pos _)
      rw [List.map_cons, List.map_cons, List.intercalate_cons_cons, ← List.map_cons,
        List.mem_append, List.mem_append, ih, hSlash, and_iff_left hTwo]
      simp only [List.mem_cons, exists_eq_or_imp]
      grind

theorem mem_text {path : Path} {name : String} {c : Char} (hName : name ∈ path.names)
    (hc : c ∈ name.toList) : c ∈ path.text.toList := by
  have hJoined : c ∈ ("/".intercalate path.names).toList :=
    mem_intercalate_iff.2 (.inl ⟨name, hName, hc⟩)
  have hNames : path.names.isEmpty = false := by
    cases hEmpty : path.names with
    | nil => simp [hEmpty] at hName
    | cons first rest => rfl
  rw [text]
  cases path.anchor with
  | here => simpa [hNames] using hJoined
  | root => exact String.toList_append ▸ List.mem_append_right _ hJoined
  | doubleRoot => exact String.toList_append ▸ List.mem_append_right _ hJoined

/-- Besides its slashes, and the point for a path without a name, the text of a path has only
characters of its names. -/
theorem mem_text_iff {path : Path} {c : Char} (hSlash : c ≠ '/') (hPoint : c ≠ '.') :
    c ∈ path.text.toList ↔ ∃ name ∈ path.names, c ∈ name.toList := by
  refine ⟨fun hText => ?_, fun ⟨name, hName, hc⟩ => mem_text hName hc⟩
  have hJoined : c ∈ ("/".intercalate path.names).toList := by
    rw [text] at hText
    split at hText
    · split at hText
      · simp [hPoint] at hText
      · exact hText
    · simpa [hSlash] using hText
    · simpa [hSlash] using hText
  exact (mem_intercalate_iff.1 hJoined).resolve_right fun hBetween => hSlash hBetween.1

/-- The text of a path goes on with a name that is added. -/
theorem utf8ByteSize_text_le (anchor : Anchor) {names : List String} (hNames : names ≠ [])
    (last : String) :
    (text ⟨anchor, names⟩).utf8ByteSize ≤ (text ⟨anchor, names ++ [last]⟩).utf8ByteSize := by
  have hJoined : "/".intercalate (names ++ [last]) = "/".intercalate names ++ "/" ++ last := by
    rw [String.intercalate_append_of_ne_nil hNames (List.cons_ne_nil _ _),
      String.intercalate_singleton]
  have hEmpty : names.isEmpty = false := List.isEmpty_eq_false_iff.2 hNames
  have hSome : (names ++ [last]).isEmpty = false := by simp
  unfold text
  rw [hJoined]
  cases anchor <;>
    simp only [hEmpty, hSome, Bool.false_eq_true, if_false, String.utf8ByteSize_append] <;> omega

/-- A text has a last part, and an extension of the text goes to this part. -/
theorem splitSlash_extension (cs : List Char) :
    ∃ front last, '/' ∉ last ∧ splitSlash cs = front ++ [last] ∧
      ∀ extension, '/' ∉ extension → splitSlash (cs ++ extension) = front ++ [last ++ extension] := by
  induction cs with
  | nil => exact ⟨[], [], by simp, rfl, fun _ => splitSlash_of_notMem⟩
  | cons c cs ih =>
    obtain ⟨front, last, hLast, hParts, hExtended⟩ := ih
    by_cases hSlash : c = '/'
    · refine ⟨[] :: front, last, hLast, by simp [splitSlash, hSlash, hParts], fun ext hExt => ?_⟩
      simp [splitSlash, hSlash, hExtended ext hExt]
    · cases front with
      | nil =>
        refine ⟨[], c :: last, by simp [hLast, Ne.symm hSlash], by simp [splitSlash, hSlash, hParts],
          fun ext hExt => ?_⟩
        simp [splitSlash, hSlash, hExtended ext hExt]
      | cons part parts =>
        refine ⟨(c :: part) :: parts, last, hLast, by simp [splitSlash, hSlash, hParts],
          fun ext hExt => ?_⟩
        simp [splitSlash, hSlash, hExtended ext hExt]

/-- The last name of a path that a text with an extension is added to ends in the extension. -/
theorem append_extension (path : Path) (s : String) {extension : String}
    (hExtension : '/' ∉ extension.toList) (hLong : 1 < extension.toList.length) :
    ∃ anchor front last, '/' ∉ last.toList ∧
      path.append (s ++ extension) = ⟨anchor, front ++ [last ++ extension]⟩ := by
  obtain ⟨front, last, hLast, -, hParts⟩ := splitSlash_extension s.toList
  have hName : isName (last ++ extension.toList) = true := by
    apply isName_of_length
    rw [List.length_append]
    omega
  have hNames : namesOf (s ++ extension).toList =
      (front.filter isName).map String.ofList ++ [String.ofList last ++ extension] := by
    rw [String.toList_append, namesOf, hParts _ hExtension]
    simp [hName, String.ofList_append]
  rw [append, ofString, hNames, join]
  split
  · exact ⟨path.anchor, path.names ++ (front.filter isName).map String.ofList, String.ofList last,
      by simpa using hLast, by rw [List.append_assoc]⟩
  · exact ⟨_, (front.filter isName).map String.ofList, String.ofList last,
      by simpa using hLast, rfl⟩

end Path

namespace Workspace

theorem isEntryName_iff {name : String} : isEntryName name = true ↔ name ≠ "" ∧ name ≠ "." ∧
    name ≠ ".." ∧ '/' ∉ name.toList ∧ '\x00' ∉ name.toList ∧ name.utf8ByteSize ≤ nameLimit := by
  simp [isEntryName, and_assoc]

theorem isComponent_of_isEntryName {name : String} (h : isEntryName name = true) :
    Path.IsComponent name := by
  obtain ⟨hEmpty, hPoint, -, hSlash, -⟩ := isEntryName_iff.1 h
  exact Path.isComponent_iff.2 ⟨hEmpty, hPoint, hSlash⟩

theorem child_of_ne {name : String} (location : Location) (h : name ≠ "..") :
    child location name = location ++ [name] := by
  rw [child, if_neg h]

section

variable {w : Workspace} {anchor : Anchor} {front : List String} {last : String}
  {location : Location}

/-- Where a path leads ends in its last name, unless that leads up. -/
theorem getLast?_of_locate (hUp : last ≠ "..")
    (h : w.locate ⟨anchor, front ++ [last]⟩ = .ok location) : location.getLast? = some last := by
  rw [← target_of_locate h, Path.target, List.foldl_append, List.foldl_cons, List.foldl_nil,
    child_of_ne _ hUp]
  simp

/-- A path leads to where an entry can stand, unless its last name leads up. -/
theorem isProper_of_locate (hName : Path.IsComponent last) (hUp : last ≠ "..")
    (h : w.locate ⟨anchor, front ++ [last]⟩ = .ok location) : isProper location = true := by
  obtain ⟨hNull, -, hFollow⟩ := locate_eq_ok_iff.1 h
  obtain ⟨hEmpty, hPoint, hSlash⟩ := Path.isComponent_iff.1 hName
  have hMem : last ∈ front ++ [last] := by simp
  unfold isProper
  rw [getLast?_of_locate hUp h]
  exact isEntryName_iff.2 ⟨hEmpty, hPoint, hUp, hSlash, fun hc => hNull (Path.mem_text hMem hc),
    size_le_of_follow hFollow hMem⟩

end

/-- The directory in front of one is no entry of it. -/
theorem parentOf_ne (location : Location) {name : String} (h : name ≠ "..") :
    parentOf location ≠ location ++ [name] := by
  rw [parentOf]
  split
  · rename_i hUp
    intro hEq
    have hName : name ∈ ".." :: location := by simp [hEq]
    rcases List.mem_cons.1 hName with rfl | hMem
    · exact h rfl
    · exact h (by simpa using List.all_eq_true.1 hUp name hMem)
  · split
    · intro hEq
      simpa using congrArg List.length hEq
    · intro hEq
      have hLength := congrArg List.length hEq
      rw [List.length_dropLast, List.length_append, List.length_singleton] at hLength
      omega

theorem child_ne {name other : String} (location : Location) (hName : name ≠ "..")
    (hNe : name ≠ other) : child location name ≠ child location other := by
  rw [child_of_ne location hName]
  by_cases hOther : other = ".."
  · rw [child, if_pos hOther]
    exact (parentOf_ne location hName).symm
  · rw [child_of_ne location hOther]
    exact fun hEq => hNe (by simpa using hEq)

theorem child_child_ne {name other file otherFile : String} (location : Location)
    (hName : name ≠ "..") (hNe : name ≠ other) (hFile : file ≠ "..") (hOther : otherFile ≠ "..") :
    child (child location name) file ≠ child (child location other) otherFile := by
  rw [child_of_ne _ hFile, child_of_ne _ hOther]
  exact fun hEq => child_ne location hName hNe (List.append_inj' hEq rfl).1

end Workspace

end ReportPress
