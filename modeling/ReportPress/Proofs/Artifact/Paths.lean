import ReportPress.Artifact.Paths
import ReportPress.Proofs.Text.Marks
import ReportPress.Proofs.Workspace.Path

/-!
The places of artifacts. The two artifacts of a document stand in different files, and documents
with different names do not share any. Main statements: `ArtifactPaths.of_eq`,
`ArtifactPaths.json_apart` and `ArtifactPaths.markdown_apart`.
-/

namespace ReportPress

namespace Text

theorem slash_notMem_upper {s : String} (h : '/' ∉ s.toList) : '/' ∉ (upper s).toList := by
  rw [toList_upper]
  exact keepsMarks_upperChar.slash_notMem h

theorem toNat_ofNat {code : Nat} (h : code.isValidChar) : (Char.ofNat code).toNat = code := by
  rw [Char.ofNat, dif_pos h]
  rfl

/-- No character becomes a null character in upper case but the null character itself. -/
theorem null_notMem_upperChar {c : Char} (h : c ≠ '\x00') : '\x00' ∉ upperChar c := by
  have hExpanding : ∀ entry ∈ expandingCases, ∀ code ∈ entry.2,
      0 < code ∧ code < 0xD800 := by decide +kernel
  have hRuns : ∀ run ∈ caseRuns, 0 < run.image ∧ (run.image + (run.last - run.first) < 0xD800 ∨
      0xDFFF < run.image ∧ run.image + (run.last - run.first) < 0x110000) := by decide +kernel
  have hPositive {code : Nat} (hValid : code.isValidChar) (hPos : 0 < code) :
      '\x00' ≠ Char.ofNat code := by
    intro hEq
    have hCode := congrArg Char.toNat hEq
    rw [toNat_ofNat hValid] at hCode
    exact absurd hCode (Nat.ne_of_lt hPos)
  apply upperChar_cases (P := ('\x00' ∉ ·)) c
  case expanding =>
    intro entry hEntry hMem
    obtain ⟨code, hCode, hEq⟩ := List.mem_map.1 hMem
    obtain ⟨hPos, hValid⟩ := hExpanding entry hEntry code hCode
    exact hPositive (.inl hValid) hPos hEq.symm
  case shifted =>
    intro run hRun offset hOffset hMem
    have hImage := hRuns run hRun
    refine hPositive ?_ (by omega) (List.mem_singleton.1 hMem)
    rw [Nat.isValidChar]
    omega
  case same => exact mt List.mem_singleton.1 h.symm

theorem null_notMem_upper {s : String} (h : '\x00' ∉ s.toList) : '\x00' ∉ (upper s).toList := by
  rw [toList_upper, List.mem_flatMap]
  rintro ⟨c, hc, hNull⟩
  refine null_notMem_upperChar ?_ hNull
  rintro rfl
  exact h hc

end Text

namespace ArtifactPaths

open ReportPress.Path

theorem json_of (base : Path) (name : String) :
    (of base name).json = (base.append name).append (name ++ ".json") := by
  rw [of]

theorem markdown_of (base : Path) (name : String) :
    (of base name).markdown = (base.append name).append (Text.upper name ++ ".md") := by
  rw [of]

/-- The places of the artifacts of a document whose name is one name of a path. -/
theorem of_eq (base : Path) {name : String} (h : IsComponent name) : of base name =
    ⟨⟨base.anchor, base.names ++ [name]⟩,
      ⟨base.anchor, base.names ++ [name] ++ [name ++ ".json"]⟩,
      ⟨base.anchor, base.names ++ [name] ++ [Text.upper name ++ ".md"]⟩⟩ := by
  have hJson : IsComponent (name ++ ".json") := isComponent_extension h.1 (by decide) (by decide)
  have hMarkdown : IsComponent (Text.upper name ++ ".md") :=
    isComponent_extension (Text.slash_notMem_upper h.1) (by decide) (by decide)
  rw [of, append_of_isComponent h, append_of_isComponent hJson, append_of_isComponent hMarkdown]

theorem last_markdown (s : String) : (s ++ ".md").toList.getLast? = some 'd' := by
  simp

theorem last_json (s : String) : (s ++ ".json").toList.getLast? = some 'n' := by
  simp

theorem ne_of_last {s t : String} {c d : Char} (hs : s.toList.getLast? = some c)
    (ht : t.toList.getLast? = some d) (h : c ≠ d) : s ≠ t := by
  rintro rfl
  exact h (Option.some.inj (hs.symm.trans ht))

theorem markdown_ne_up (s : String) : s ++ ".md" ≠ ".." :=
  ne_of_last (last_markdown s) rfl (by decide)

theorem json_ne_up (s : String) : s ++ ".json" ≠ ".." :=
  ne_of_last (last_json s) rfl (by decide)

theorem json_ne_markdown (s t : String) : s ++ ".json" ≠ t ++ ".md" :=
  ne_of_last (last_json s) (last_markdown t) (by decide)

/-- A path whose last part has an extension leads to where an entry can stand, under a name with the
extension. -/
theorem locate_extension {w : Workspace} {path : Path} {s extension : String} {location : Location}
    (hExtension : '/' ∉ extension.toList) (hLong : 1 < extension.toList.length)
    (hUp : ∀ last, last ++ extension ≠ "..")
    (h : w.locate (path.append (s ++ extension)) = .ok location) :
    Workspace.isProper location = true ∧ ∃ last, location.getLast? = some (last ++ extension) := by
  obtain ⟨anchor, front, last, hSlash, hPath⟩ := append_extension path s hExtension hLong
  have hName := isComponent_extension hSlash hExtension hLong
  rw [hPath] at h
  exact ⟨Workspace.isProper_of_locate hName (hUp last) h,
    last, Workspace.getLast?_of_locate (hUp last) h⟩

section

variable {w : Workspace} {base : Path} {name : String} {location : Location}

theorem locate_json (h : w.locate (of base name).json = .ok location) :
    Workspace.isProper location = true ∧ ∃ last, location.getLast? = some (last ++ ".json") := by
  rw [json_of] at h
  exact locate_extension (by decide) (by decide) json_ne_up h

theorem locate_markdown (h : w.locate (of base name).markdown = .ok location) :
    Workspace.isProper location = true ∧ ∃ last, location.getLast? = some (last ++ ".md") := by
  rw [markdown_of] at h
  exact locate_extension (by decide) (by decide) markdown_ne_up h

/-- The two artifacts of a document stand at different places, whatever its name, if there is a way
to both. -/
theorem target_ne {w' : Workspace} {place : Location}
    (hJson : w.locate (of base name).json = .ok location)
    (hMarkdown : w'.locate (of base name).markdown = .ok place) :
    (of base name).json.target ≠ (of base name).markdown.target := by
  obtain ⟨-, last, hLast⟩ := locate_json hJson
  obtain ⟨-, other, hOther⟩ := locate_markdown hMarkdown
  rw [Workspace.target_of_locate hJson, Workspace.target_of_locate hMarkdown]
  rintro rfl
  exact json_ne_markdown last other (Option.some.inj (hLast.symm.trans hOther))

end

section

variable (base : Path) {name : String} (hName : IsComponent name)
include hName

theorem json_apart : (of base name).json.target ≠ (of base name).markdown.target := by
  rw [of_eq base hName, Path.target, Path.target]
  simp only [List.foldl_append, List.foldl_cons, List.foldl_nil]
  exact (Workspace.child_ne _ (markdown_ne_up _) (json_ne_markdown _ _).symm).symm

omit hName in
/-- Files in the directories of different documents stand at different places. -/
theorem file_apart {other file otherFile : String} (hOther : Workspace.isEntryName other = true)
    (hNe : other ≠ name) (hUp : otherFile ≠ "..") (hUp' : file ≠ "..") :
    Path.target ⟨base.anchor, base.names ++ [other] ++ [otherFile]⟩ ≠
      Path.target ⟨base.anchor, base.names ++ [name] ++ [file]⟩ := by
  obtain ⟨-, -, hOtherUp, -⟩ := Workspace.isEntryName_iff.1 hOther
  simp only [Path.target, List.foldl_append, List.foldl_cons, List.foldl_nil]
  exact Workspace.child_child_ne _ hOtherUp hNe hUp hUp'

theorem markdown_apart {other : String} (hOther : Workspace.isEntryName other = true)
    (hNe : other ≠ name) :
    (of base other).markdown.target ≠ (of base name).markdown.target := by
  rw [of_eq base hName, of_eq base (Workspace.isComponent_of_isEntryName hOther)]
  exact file_apart base hOther hNe (markdown_ne_up _) (markdown_ne_up _)

theorem markdown_json_apart {other : String} (hOther : Workspace.isEntryName other = true)
    (hNe : other ≠ name) :
    (of base other).markdown.target ≠ (of base name).json.target := by
  rw [of_eq base hName, of_eq base (Workspace.isComponent_of_isEntryName hOther)]
  exact file_apart base hOther hNe (markdown_ne_up _) (json_ne_up _)

theorem parent_json : (of base name).json.parent = base.append name := by
  simp [of_eq base hName, append_of_isComponent hName, Path.parent]

theorem parent_markdown : (of base name).markdown.parent = base.append name := by
  simp [of_eq base hName, append_of_isComponent hName, Path.parent]

end

end ArtifactPaths

end ReportPress
