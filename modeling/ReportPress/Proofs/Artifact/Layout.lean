import ReportPress.Proofs.Artifact.Paths
import ReportPress.Proofs.Workspace.Descent

/-!
Which documents keep to themselves. The name of a document is a path of its own: its artifacts lie
below the output base if the name is relative and leads down, and two documents share their artifacts
if their names write the same path up to empty parts and points. Main statement:
`ArtifactPaths.contained_and_apart`.
-/

namespace ReportPress

namespace Path

/-- A path leads strictly below another, whatever stands there. -/
def IsBelow (path base : Path) : Prop :=
  path.anchor = base.anchor ∧
    ∃ below, below ≠ [] ∧ ".." ∉ below ∧ path.target = base.target ++ below

/-- A relative path that does not lead up. -/
def IsOutputBase (base : Path) : Prop := base.anchor = .here ∧ ".." ∉ base.names

instance (base : Path) : Decidable (IsOutputBase base) := inferInstanceAs (Decidable (_ ∧ _))

/-- The text writes a relative path that ends below where it starts and never leads above it. -/
def leadsInside (s : String) : Bool :=
  (ofString s).anchor == .here && (Workspace.depth? 0 (ofString s).names).any (0 < ·)

/-- The names in front of the last part of a text. -/
def frontNames (s : String) : List String :=
  ((splitSlash s.toList).dropLast.filter isName).map String.ofList

/-- What stands behind the last slash of a text. -/
def lastPart (s : String) : String := String.ofList ((splitSlash s.toList).getLast?.getD [])

/-- The last part, if it is a name. -/
def lastNames (s : String) : List String :=
  if isName (lastPart s).toList then [lastPart s] else []

/-- A text as a path, but for where it starts: its names, and its last part as it stands. -/
def written (s : String) : List String × String := (frontNames s, lastPart s)

theorem leadsInside_iff {s : String} : leadsInside s = true ↔ (ofString s).anchor = .here ∧
    ∃ depth, Workspace.depth? 0 (ofString s).names = some (depth + 1) := by
  rw [leadsInside, Bool.and_eq_true, beq_iff_eq, Option.any_eq_true]
  refine and_congr_right fun _ => ⟨?_, ?_⟩
  · rintro ⟨_ | depth, hDepth, hPos⟩
    · exact absurd hPos (by decide)
    · exact ⟨depth, hDepth⟩
  · rintro ⟨depth, hDepth⟩
    exact ⟨depth + 1, hDepth, decide_eq_true (Nat.succ_pos depth)⟩

theorem anchorOf_eq_here_iff {cs : List Char} : anchorOf cs = .here ↔ cs.head? ≠ some '/' := by
  cases cs with
  | nil => exact ⟨fun _ => nofun, fun _ => rfl⟩
  | cons c rest =>
    rw [anchorOf, List.takeWhile_cons, List.head?_cons]
    by_cases hSlash : c = '/'
    · subst hSlash
      refine ⟨fun hHere => ?_, fun hOther => absurd rfl hOther⟩
      rw [if_pos (beq_self_eq_true '/'), List.length_cons] at hHere
      split at hHere
      · rename_i hZero
        exact absurd hZero (Nat.succ_ne_zero _)
      · cases hHere
      · cases hHere
    · rw [if_neg (by simpa using hSlash)]
      exact ⟨fun _ hHead => hSlash (Option.some.inj hHead), fun _ => rfl⟩

theorem slash_notMem_splitSlash (cs : List Char) : ∀ part ∈ splitSlash cs, '/' ∉ part := by
  induction cs with
  | nil => simp [splitSlash]
  | cons c cs ih =>
    rw [splitSlash]
    split
    · exact List.forall_mem_cons.2 ⟨List.not_mem_nil, ih⟩
    · rename_i hSlash
      split
      · simpa using Ne.symm hSlash
      · rename_i part parts hParts
        rw [hParts] at ih
        obtain ⟨hPart, hRest⟩ := List.forall_mem_cons.1 ih
        refine List.forall_mem_cons.2 ⟨?_, hRest⟩
        rw [List.mem_cons, not_or]
        exact ⟨Ne.symm hSlash, hPart⟩

/-- Characters in front of a text that are no slashes go to its first part. -/
theorem splitSlash_notMem_append {front : List Char} (h : '/' ∉ front) {cs part : List Char}
    {parts : List (List Char)} (hParts : splitSlash cs = part :: parts) :
    splitSlash (front ++ cs) = (front ++ part) :: parts := by
  induction front with
  | nil => exact hParts
  | cons c front ih =>
    rw [List.mem_cons, not_or] at h
    rw [List.cons_append, splitSlash, if_neg (Ne.symm h.1), ih h.2]
    rfl

theorem root_notMem_names (s : String) : "/" ∉ (ofString s).names := by
  rw [ofString, namesOf, List.mem_map]
  rintro ⟨part, hPart, hRoot⟩
  have hSlash := slash_notMem_splitSlash s.toList part (List.mem_filter.1 hPart).1
  rw [← String.toList_ofList (l := part), hRoot] at hSlash
  exact hSlash (by decide)

theorem names_eq (s : String) : (ofString s).names = frontNames s ++ lastNames s := by
  obtain ⟨front, last, -, hParts, -⟩ := splitSlash_extension s.toList
  rw [ofString, namesOf, frontNames, lastNames, lastPart, hParts]
  simp only [List.filter_append, List.map_append, List.dropLast_concat, List.getLast?_concat,
    Option.getD_some, String.toList_ofList]
  cases hName : isName last <;> simp [hName]

theorem written_of_notMem {s : String} (h : '/' ∉ s.toList) : written s = ([], s) := by
  simp [written, frontNames, lastPart, splitSlash_of_notMem h]

section

variable {image : Char → List Char} (h : Text.KeepsMarks image)
include h

theorem isName_flatMap (part : List Char) : isName (part.flatMap image) = isName part := by
  have hEmpty : part.flatMap image = [] ↔ part = [] := h.flatMap_eq_iff nofun
  have hPoint : part.flatMap image = ['.'] ↔ part = ['.'] :=
    h.flatMap_eq_iff (List.forall_mem_singleton.2 rfl)
  rw [Bool.eq_iff_iff, isName, isName, Bool.and_eq_true, Bool.and_eq_true, bne_iff_ne, bne_iff_ne,
    bne_iff_ne, bne_iff_ne]
  exact and_congr (not_congr hEmpty) (not_congr hPoint)

theorem spelled_eq_up_iff (s : String) : Text.spelled image s = ".." ↔ s = ".." := by
  rw [← String.toList_inj, ← String.toList_inj, Text.toList_spelled]
  exact h.flatMap_eq_iff (List.forall_mem_cons.2 ⟨rfl, List.forall_mem_singleton.2 rfl⟩)

theorem splitSlash_flatMap (cs : List Char) :
    splitSlash (cs.flatMap image) = (splitSlash cs).map (·.flatMap image) := by
  induction cs with
  | nil => rfl
  | cons c cs ih =>
    obtain ⟨front, last, -, hParts, -⟩ := splitSlash_extension cs
    obtain ⟨part, parts, hFirst⟩ : ∃ part parts, splitSlash cs = part :: parts := by
      rw [hParts]
      exact List.exists_cons_of_ne_nil (by simp)
    rw [hFirst, List.map_cons] at ih
    rw [List.flatMap_cons, splitSlash, hFirst]
    by_cases hSlash : c = '/'
    · rw [if_pos hSlash, hSlash, h.eq_self '/' (by decide), List.singleton_append, splitSlash,
        if_pos rfl, ih, List.map_cons, List.flatMap_nil, List.map_cons]
    · have hImage := h.notMem '/' (by decide) c hSlash
      rw [if_neg hSlash, splitSlash_notMem_append hImage ih, List.map_cons, List.flatMap_cons]

variable {extension : String} (hSlash : '/' ∉ extension.toList)
include hSlash

theorem names_spelled (hLong : 1 < extension.toList.length) (s : String) :
    (ofString (Text.spelled image s ++ extension)).names =
      (frontNames s).map (Text.spelled image) ++ [Text.spelled image (lastPart s) ++ extension] := by
  obtain ⟨front, last, -, hParts, -⟩ := splitSlash_extension s.toList
  obtain ⟨front', last', -, hParts', hExtended⟩ := splitSlash_extension (s.toList.flatMap image)
  rw [splitSlash_flatMap h, hParts, List.map_append, List.map_singleton] at hParts'
  obtain ⟨rfl, hLast⟩ := List.append_inj' hParts' rfl
  obtain rfl := List.singleton_inj.1 hLast
  have hName : isName (last.flatMap image ++ extension.toList) = true := by
    apply isName_of_length
    rw [List.length_append]
    omega
  rw [ofString, namesOf, String.toList_append, Text.toList_spelled, hExtended _ hSlash, frontNames,
    lastPart, hParts]
  simp [Text.spelled, hName, List.filter_map, Function.comp_def, isName_flatMap h,
    String.ofList_append]

theorem anchor_spelled {s : String} (hHere : (ofString s).anchor = .here) :
    (ofString (Text.spelled image s ++ extension)).anchor = .here := by
  rw [ofString, anchorOf_eq_here_iff] at hHere ⊢
  rw [String.toList_append, Text.toList_spelled]
  intro hHead
  cases hText : s.toList with
  | nil =>
    rw [hText, List.flatMap_nil, List.nil_append] at hHead
    exact hSlash (List.mem_of_head? hHead)
  | cons c rest =>
    rw [hText, List.head?_cons] at hHere
    obtain ⟨d, others, hImage⟩ := List.exists_cons_of_ne_nil (h.ne_nil c)
    rw [hText, List.flatMap_cons, hImage, List.cons_append, List.cons_append, List.head?_cons]
      at hHead
    have hMem : '/' ∈ image c := by
      rw [hImage, Option.some.inj hHead]
      exact List.mem_cons_self
    exact h.notMem '/' (by decide) c (fun hEq => hHere (congrArg some hEq)) hMem

end

theorem append_of_here {s : String} (h : (ofString s).anchor = .here) (path : Path) :
    path.append s = ⟨path.anchor, path.names ++ (ofString s).names⟩ := by
  rw [append, join, h]

/-- A path that goes on with names that lead down is below what it goes on from. -/
theorem isBelow_of_depth? {anchor : Anchor} {front names : List String} {depth : Nat}
    (h : Workspace.depth? 0 names = some (depth + 1)) (hRoot : "/" ∉ names) :
    IsBelow ⟨anchor, front ++ names⟩ ⟨anchor, front⟩ := by
  obtain ⟨below, hTarget, hDown, hLength⟩ :=
    Workspace.exists_descent (target ⟨anchor, front⟩) Workspace.isDescent_nil h hRoot
  refine ⟨rfl, below, ?_, hDown.1, ?_⟩
  · rintro rfl
    cases hLength
  · rw [List.append_nil] at hTarget
    rw [← hTarget, target, target, List.foldl_append]

end Path

namespace ArtifactPaths

open ReportPress.Path Text

section

variable {base : Path} {name other : String} {image : Char → List Char} {extension : String}

theorem json_spelled (base : Path) (name : String) : (of base name).json =
    (base.append name).append (spelled (fun c => [c]) name ++ ".json") := by
  rw [of, spelled_singleton]

theorem markdown_spelled (base : Path) (name : String) : (of base name).markdown =
    (base.append name).append (spelled upperChar name ++ ".md") := by
  rw [of, spelled_upperChar]

theorem isBelow_directory (h : leadsInside name = true) :
    (of base name).directory.IsBelow base := by
  obtain ⟨hHere, depth, hDepth⟩ := leadsInside_iff.1 h
  rw [of, append_of_here hHere]
  exact isBelow_of_depth? hDepth (root_notMem_names name)

theorem isBelow_file (hImage : KeepsMarks image) (hSlash : '/' ∉ extension.toList)
    (hLong : 1 < extension.toList.length) (hUp : ∀ last, last ++ extension ≠ "..")
    (h : leadsInside name = true) :
    ((base.append name).append (spelled image name ++ extension)).IsBelow (base.append name) := by
  obtain ⟨hHere, depth, hDepth⟩ := leadsInside_iff.1 h
  rw [append_of_here (anchor_spelled hImage hSlash hHere)]
  rw [names_eq, Workspace.depth?_append] at hDepth
  cases hFront : Workspace.depth? 0 (frontNames name) with
  | none =>
    rw [hFront] at hDepth
    cases hDepth
  | some reached =>
    have hFile : Workspace.depth? 0 (ofString (spelled image name ++ extension)).names =
        some (reached + 1) := by
      rw [names_spelled hImage hSlash hLong, Workspace.depth?_append,
        Workspace.depth?_map (spelled_eq_up_iff hImage), hFront, Option.bind_some,
        Workspace.depth?_down (hUp _)]
      rfl
    exact isBelow_of_depth? hFile (root_notMem_names _)

/-- Only names that lead inside keep a document below the working directory. -/
theorem leadsInside_of_isBelow (h : (of ⟨.here, []⟩ name).directory.IsBelow ⟨.here, []⟩) :
    leadsInside name = true := by
  obtain ⟨hAnchor, below, hBelow, hUp, hTarget⟩ := h
  have hHere : (ofString name).anchor = .here := by
    rw [of, append, join] at hAnchor
    split at hAnchor
    · assumption
    · exact hAnchor
  rw [of, append_of_here hHere] at hTarget
  refine leadsInside_iff.2 ⟨hHere, ?_⟩
  change (ofString name).names.foldl Workspace.child [] = below at hTarget
  -- names that lose their depth lead above the working directory, and the others end as far below it
  -- as their depth says
  cases hDepth : Workspace.depth? 0 (ofString name).names with
  | none =>
    have hHead :=
      Workspace.head?_of_depth?_none Workspace.isDescent_nil hDepth (root_notMem_names name)
    rw [hTarget] at hHead
    exact absurd (List.mem_of_head? hHead) hUp
  | some reached =>
    obtain ⟨found, hFound, -, hLength⟩ :=
      Workspace.exists_descent [] Workspace.isDescent_nil hDepth (root_notMem_names name)
    obtain rfl : below = found := hTarget.symm.trans hFound
    cases reached with
    | zero => exact absurd (List.eq_nil_of_length_eq_zero hLength) hBelow
    | succ depth => exact ⟨depth, rfl⟩

theorem isName_lastPart_eq (hImage : KeepsMarks image)
    (h : spelled image (lastPart name) = spelled image (lastPart other)) :
    isName (lastPart name).toList = isName (lastPart other).toList := by
  rw [← isName_flatMap hImage, ← isName_flatMap hImage (lastPart other).toList, ← toList_spelled,
    ← toList_spelled, h]

theorem spelled_of_not_isName (hImage : KeepsMarks image) {s : String}
    (h : isName s.toList = false) : spelled image s = s := by
  have hPoints : ∀ c ∈ s.toList, c = '.' := by
    rw [isName, Bool.and_eq_false_iff, bne_eq_false_iff_eq, bne_eq_false_iff_eq] at h
    rcases h with hEmpty | hPoint
    · rw [hEmpty]
      exact List.forall_mem_nil _
    · rw [hPoint]
      exact fun c => List.mem_singleton.1
  rw [← String.toList_inj, toList_spelled, hImage.flatMap_of_points hPoints]

theorem lastPart_eq (hImage : KeepsMarks image) (hNames : lastNames name = lastNames other)
    (h : spelled image (lastPart name) = spelled image (lastPart other)) :
    lastPart name = lastPart other := by
  have hSame := isName_lastPart_eq hImage h
  rw [lastNames, lastNames, ← hSame] at hNames
  cases hName : isName (lastPart name).toList with
  | true =>
    rw [hName, if_pos rfl, if_pos rfl] at hNames
    exact List.singleton_inj.1 hNames
  | false =>
    have hOther := hSame.symm.trans hName
    rwa [spelled_of_not_isName hImage hName, spelled_of_not_isName hImage hOther] at h

/-- Documents with relative names share a file that is named after them exactly if their names write
the same. -/
theorem file_eq_iff (hImage : KeepsMarks image) (hSlash : '/' ∉ extension.toList)
    (hLong : 1 < extension.toList.length) (hName : (ofString name).anchor = .here)
    (hOther : (ofString other).anchor = .here) :
    (base.append name).append (spelled image name ++ extension) =
        (base.append other).append (spelled image other ++ extension) ↔
      written name = written other := by
  rw [append_of_here (anchor_spelled hImage hSlash hName),
    append_of_here (anchor_spelled hImage hSlash hOther), append_of_here hName,
    append_of_here hOther, names_spelled hImage hSlash hLong, names_spelled hImage hSlash hLong,
    names_eq, names_eq, written, written, Prod.mk.injEq, Path.mk.injEq]
  simp only [true_and, List.append_assoc, List.append_cancel_left_eq]
  constructor
  · intro hEq
    have hEnd := congrArg List.getLast? hEq
    simp only [← List.append_assoc, List.getLast?_concat, Option.some.injEq] at hEnd
    have hSpelled : spelled image (lastPart name) = spelled image (lastPart other) := by
      rw [← String.toList_inj, String.toList_append, String.toList_append] at hEnd
      exact String.toList_inj.1 (List.append_cancel_right hEnd)
    have hCount : (lastNames name).length = (lastNames other).length := by
      rw [lastNames, lastNames, isName_lastPart_eq hImage hSpelled]
      split <;> rfl
    -- the names in front stand twice in the path, once as they are and once spelled anew
    have hLength : (frontNames name).length = (frontNames other).length := by
      have hTotal := congrArg List.length hEq
      simp only [List.length_append, List.length_map, List.length_singleton] at hTotal
      omega
    obtain ⟨hFront, hRest⟩ := List.append_inj hEq hLength
    obtain ⟨hNames, -⟩ := List.append_inj hRest hCount
    exact ⟨hFront, lastPart_eq hImage hNames hSpelled⟩
  · rintro ⟨hFront, hLast⟩
    have hNames : lastNames name = lastNames other := by rw [lastNames, lastNames, hLast]
    rw [hFront, hLast, hNames]

theorem anchor_of_notMem (h : '/' ∉ name.toList) : (ofString name).anchor = .here := by
  rw [ofString, anchorOf_eq_here_iff]
  exact fun hHead => h (List.mem_of_head? hHead)

/-- A name that is one name of a path leads inside unless it leads up. -/
theorem leadsInside_of_isComponent (h : IsComponent name) (hUp : name ≠ "..") :
    leadsInside name = true := by
  refine leadsInside_iff.2 ⟨anchor_of_notMem h.1, 0, ?_⟩
  rw [names_ofString h.1 h.2, Workspace.depth?_down hUp]
  rfl

/-- Different names without slashes never share an artifact. -/
theorem ne_of_notMem (base : Path) (hName : '/' ∉ name.toList) (hOther : '/' ∉ other.toList)
    (hNe : name ≠ other) :
    (of base name).json ≠ (of base other).json ∧
      (of base name).markdown ≠ (of base other).markdown := by
  have hWritten : written name ≠ written other := by
    rw [written_of_notMem hName, written_of_notMem hOther]
    exact fun hEq => hNe (congrArg Prod.snd hEq)
  rw [json_spelled, json_spelled, markdown_spelled, markdown_spelled]
  constructor
  · exact mt (file_eq_iff keepsMarks_singleton (by decide) (by decide) (anchor_of_notMem hName)
      (anchor_of_notMem hOther)).1 hWritten
  · exact mt (file_eq_iff keepsMarks_upperChar (by decide) (by decide) (anchor_of_notMem hName)
      (anchor_of_notMem hOther)).1 hWritten

end

/-- Where the artifacts of documents lie. Those of a document are below its directory, and this below
the output base, for every relative base that does not lead up, exactly if the document's name leads
inside; and two documents with relative names share an artifact exactly if their names write the
same. -/
theorem contained_and_apart (name : String) :
    ((∀ base, IsOutputBase base → (of base name).directory.IsBelow base ∧
        (of base name).json.IsBelow (of base name).directory ∧
        (of base name).markdown.IsBelow (of base name).directory) ↔ leadsInside name = true) ∧
    ∀ base other, (ofString name).anchor = .here → (ofString other).anchor = .here →
      ((of base name).json = (of base other).json ↔ written name = written other) ∧
      ((of base name).markdown = (of base other).markdown ↔ written name = written other) := by
  refine ⟨⟨fun h => ?_, fun h base _ => ⟨isBelow_directory h, ?_, ?_⟩⟩,
    fun base other hName hOther => ⟨?_, ?_⟩⟩
  · obtain ⟨hDirectory, -⟩ := h ⟨.here, []⟩ (by decide)
    exact leadsInside_of_isBelow hDirectory
  · rw [json_spelled]
    exact isBelow_file keepsMarks_singleton (by decide) (by decide) json_ne_up h
  · rw [markdown_spelled]
    exact isBelow_file keepsMarks_upperChar (by decide) (by decide) markdown_ne_up h
  · rw [json_spelled, json_spelled]
    exact file_eq_iff keepsMarks_singleton (by decide) (by decide) hName hOther
  · rw [markdown_spelled, markdown_spelled]
    exact file_eq_iff keepsMarks_upperChar (by decide) (by decide) hName hOther

theorem contained_and_apart_nested :
    (of ⟨.here, ["out"]⟩ "2024/q3").directory.IsBelow ⟨.here, ["out"]⟩ ∧
      (of ⟨.here, ["out"]⟩ "2024/q3").markdown.IsBelow (of ⟨.here, ["out"]⟩ "2024/q3").directory ∧
        (of ⟨.here, ["out"]⟩ "2024/q3").markdown ≠ (of ⟨.here, ["out"]⟩ "2024/q4").markdown := by
  obtain ⟨hContained, hApart⟩ := contained_and_apart "2024/q3"
  have hInside : leadsInside "2024/q3" = true := by decide +kernel
  obtain ⟨hDirectory, -, hMarkdown⟩ := hContained.2 hInside ⟨.here, ["out"]⟩ (by decide)
  obtain ⟨-, hShared⟩ := hApart ⟨.here, ["out"]⟩ "2024/q4" (by decide +kernel) (by decide +kernel)
  exact ⟨hDirectory, hMarkdown, mt hShared.1 (by decide +kernel)⟩

/-- An absolute name stands outside the output base, a name that leads up too, and a point in front
of a name does not make it another. -/
theorem not_contained_and_apart :
    IsOutputBase ⟨.here, ["out"]⟩ ∧
      ¬ (of ⟨.here, ["out"]⟩ "/x").directory.IsBelow ⟨.here, ["out"]⟩ ∧
        ¬ (of ⟨.here, ["out"]⟩ "..").directory.IsBelow ⟨.here, ["out"]⟩ ∧
          (of ⟨.here, ["out"]⟩ "./a").json = (of ⟨.here, ["out"]⟩ "a").json := by
  refine ⟨by decide, ?_, ?_, by decide +kernel⟩
  · rintro ⟨hAnchor, -⟩
    have hRoot : (of ⟨.here, ["out"]⟩ "/x").directory.anchor = .root := by decide +kernel
    rw [hRoot] at hAnchor
    cases hAnchor
  · rintro ⟨-, below, -, -, hTarget⟩
    have hEmpty : (of ⟨.here, ["out"]⟩ "..").directory.target = [] := by decide +kernel
    rw [hEmpty] at hTarget
    cases hTarget

end ArtifactPaths

end ReportPress
