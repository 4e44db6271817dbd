import ReportPress.Proofs.Artifact.Reading
import ReportPress.Proofs.Artifact.Regenerate
import ReportPress.Proofs.Artifact.Save

/-!
Sequences of calls that save reports below an output base and regenerate the documents there. Each
call only lets the workspace grow. Saving touches the artifacts of its own document and makes
directories on the way to them; regeneration touches the Markdown of documents that can be loaded.
-/

namespace ReportPress

/-- A text that can name a document: one name of a path, which does not lead up. -/
def IsDocumentName (name : String) : Prop := Path.IsComponent name ∧ name ≠ ".."

instance (name : String) : Decidable (IsDocumentName name) := inferInstanceAs (Decidable (_ ∧ _))

theorem isDocumentName_of_isEntryName {name : String} (h : Workspace.isEntryName name = true) :
    IsDocumentName name :=
  ⟨Workspace.isComponent_of_isEntryName h, (Workspace.isEntryName_iff.1 h).2.2.1⟩

namespace ArtifactPaths

section

variable (base : Path) {name other : String}

theorem target_directory (h : IsDocumentName name) :
    (of base name).directory.target = base.target ++ [name] := by
  rw [of_eq base h.1, Path.target, List.foldl_append, List.foldl_cons, List.foldl_nil,
    Workspace.child_of_ne _ h.2]
  rfl

theorem target_json (h : IsDocumentName name) :
    (of base name).json.target = base.target ++ [name, name ++ ".json"] := by
  rw [of_eq base h.1, Path.target]
  simp only [List.foldl_append, List.foldl_cons, List.foldl_nil]
  rw [Workspace.child_of_ne _ h.2, Workspace.child_of_ne _ (json_ne_up name), List.append_assoc]
  rfl

theorem target_markdown (h : IsDocumentName name) :
    (of base name).markdown.target = base.target ++ [name, Text.upper name ++ ".md"] := by
  rw [of_eq base h.1, Path.target]
  simp only [List.foldl_append, List.foldl_cons, List.foldl_nil]
  rw [Workspace.child_of_ne _ h.2, Workspace.child_of_ne _ (markdown_ne_up _), List.append_assoc]
  rfl

theorem target_json_ne_json (h : IsDocumentName name) (hOther : IsDocumentName other)
    (hNe : other ≠ name) : (of base other).json.target ≠ (of base name).json.target := by
  rw [target_json base h, target_json base hOther]
  simp [hNe]

theorem target_json_ne_markdown (h : IsDocumentName name) (hOther : IsDocumentName other) :
    (of base other).json.target ≠ (of base name).markdown.target := by
  rw [target_markdown base h, target_json base hOther]
  simp [json_ne_markdown]

theorem target_markdown_ne_markdown (h : IsDocumentName name) (hOther : IsDocumentName other)
    (hNe : other ≠ name) : (of base other).markdown.target ≠ (of base name).markdown.target := by
  rw [target_markdown base h, target_markdown base hOther]
  simp [hNe]

/-- A directory on the way to that of a document is on the way to the base, or it is the document's
own. -/
theorem target_front_directory (h : IsDocumentName name) (count : Nat) :
    ((of base name).directory.front count).target = (base.front count).target ∨
      ((of base name).directory.front count).target = base.target ++ [name] := by
  rw [← target_directory base h, of_eq base h.1]
  by_cases hCount : count ≤ base.names.length
  · left
    simp only [Path.front, List.take_append_of_le_length hCount]
  · right
    have hAll : (base.names ++ [name]).length ≤ count := by
      rw [List.length_append, List.length_singleton]
      omega
    simp only [Path.front, List.take_of_length_le hAll]

end

end ArtifactPaths

theorem Outcome.isOk_map {α β : Type} (f : α → β) (outcome : Outcome α) :
    (outcome.map f).result.isOk = outcome.result.isOk :=
  Except.isOk_map

namespace Artifact

/-- A call on the documents below an output base. -/
inductive Call
  | save (report : Report) (name : String) (schemaName : LooseText) (usage : TokenUsage)
      (cost : Cost)
  | regenerate (schemaName : LooseText)

namespace Call

/-- What comes of a call. -/
def outcome (base : Path) (w : Workspace) : Call → Outcome Unit
  | .save report name schemaName usage cost =>
    (Artifact.save w base report name schemaName usage cost).map fun _ => ()
  | .regenerate schemaName => (Artifact.regenerate w schemaName base).map fun _ => ()

/-- The document that is saved has a name that a document can have. -/
def NamesDocument : Call → Prop
  | .save _ name _ _ _ => IsDocumentName name
  | .regenerate _ => True

end Call

section

variable {base : Path} {w : Workspace} {report : Report} {name : String} {schemaName : LooseText}
  {usage : TokenUsage} {cost : Cost}

@[simp] theorem workspace_outcome_save :
    ((Call.save report name schemaName usage cost).outcome base w).workspace =
      (save w base report name schemaName usage cost).workspace := rfl

@[simp] theorem workspace_outcome_regenerate :
    ((Call.regenerate schemaName).outcome base w).workspace =
      (regenerate w schemaName base).workspace := rfl

@[simp] theorem isOk_outcome_save :
    ((Call.save report name schemaName usage cost).outcome base w).result.isOk =
      (save w base report name schemaName usage cost).result.isOk :=
  Outcome.isOk_map _ _

@[simp] theorem isOk_outcome_regenerate :
    ((Call.regenerate schemaName).outcome base w).result.isOk =
      (regenerate w schemaName base).result.isOk :=
  Outcome.isOk_map _ _

end

/-- The workspace after calls, one after the other, whether or not they succeed. -/
def runCalls (base : Path) (w : Workspace) (calls : List Call) : Workspace :=
  calls.foldl (fun w call => (call.outcome base w).workspace) w

@[simp] theorem runCalls_nil (base : Path) (w : Workspace) : runCalls base w [] = w := rfl

@[simp] theorem runCalls_cons (base : Path) (w : Workspace) (call : Call) (rest : List Call) :
    runCalls base w (call :: rest) = runCalls base (call.outcome base w).workspace rest := rfl

section

variable {w : Workspace} {base : Path} {report : Report} {name : String} {schemaName : LooseText}
  {usage : TokenUsage} {cost : Cost} {location : Location}

theorem grows_save :
    Workspace.Grows w (save w base report name schemaName usage cost).workspace := by
  obtain ⟨w₁, hMade, hEnd⟩ :=
    (saves_saveTexts w (.of base name) (.of report schemaName usage cost)).exists_writes
  rcases hEnd with hEnd | ⟨json, w₂, hJson, hEnd⟩
  · exact hEnd ▸ hMade.grows
  have hFirst := hMade.grows.trans (Workspace.grows_writeBytes hJson)
  rcases hEnd with hEnd | ⟨markdown, hMarkdown⟩
  · exact hEnd ▸ hFirst
  · exact hFirst.trans (Workspace.grows_writeBytes hMarkdown)

/-- Besides the artifacts, saving at most makes directories. -/
theorem at?_save_of_ne (hJson : location ≠ (ArtifactPaths.of base name).json.target)
    (hMarkdown : location ≠ (ArtifactPaths.of base name).markdown.target) :
    (save w base report name schemaName usage cost).workspace.at? location = w.at? location ∨
      w.at? location = none ∧
        (save w base report name schemaName usage cost).workspace.at? location =
            some .directory ∧
          ∃ count, ((ArtifactPaths.of base name).directory.front count).target = location := by
  obtain ⟨w₁, hMade, hEnd⟩ :=
    (saves_saveTexts w (.of base name) (.of report schemaName usage cost)).exists_writes
  have hSame : (save w base report name schemaName usage cost).workspace.at? location =
      w₁.at? location := by
    rcases hEnd with hEnd | ⟨_, w₂, hWritten, hEnd⟩
    · exact congrArg (Workspace.at? · location) hEnd
    have hFirst := Workspace.at?_writeBytes_of_ne hWritten hJson
    rcases hEnd with hEnd | ⟨_, hLast⟩
    · exact (congrArg (Workspace.at? · location) hEnd).trans hFirst
    · exact (Workspace.at?_writeBytes_of_ne hLast hMarkdown).trans hFirst
  rw [hSame]
  exact hMade location

theorem file?_save_of_ne (hJson : location ≠ (ArtifactPaths.of base name).json.target)
    (hMarkdown : location ≠ (ArtifactPaths.of base name).markdown.target) :
    (save w base report name schemaName usage cost).workspace.file? location =
      w.file? location :=
  Workspace.file?_of_made (at?_save_of_ne hJson hMarkdown)

/-- Where regeneration changes anything, the Markdown of a document that can be loaded stands. -/
theorem at?_regenerate (w : Workspace) (schemaName : LooseText) (base : Path)
    (location : Location) :
    (regenerate w schemaName base).workspace.at? location = w.at? location ∨
      w.at? location ≠ some .directory ∧ ∃ name bytes, IsDocumentName name ∧
        isLoadable w (.of base name) = true ∧
          (ArtifactPaths.of base name).markdown.target = location ∧
            (regenerate w schemaName base).workspace.at? location = some (.file bytes) := by
  obtain ⟨names, hDocuments, hRenders⟩ := regenerate_rendersOnly w schemaName base
  apply (hRenders location).imp id
  rintro ⟨hFree, name, hName, text, hRendering, hPlace, hFile⟩
  exact ⟨hFree, name, _, isDocumentName_of_isEntryName (hDocuments name hName).isName,
    hRendering.isLoadable, Workspace.target_of_locate hPlace, hFile⟩

theorem grows_regenerate : Workspace.Grows w (regenerate w schemaName base).workspace := by
  constructor
  · intro location hAt
    rcases at?_regenerate w schemaName base location with hSame | ⟨hFree, -⟩
    · rw [hSame, hAt]
    · exact absurd hAt hFree
  · intro location bytes hAt
    rcases at?_regenerate w schemaName base location with hSame | ⟨-, _, found, -, -, -, hFile⟩
    · exact ⟨bytes, hSame.trans hAt⟩
    · exact ⟨found, hFile⟩

theorem keepsDirectories_of_regenerate :
    Workspace.KeepsDirectories (regenerate w schemaName base).workspace w := by
  intro location hAt
  rcases at?_regenerate w schemaName base location with hSame | ⟨-, _, _, -, -, -, hFile⟩
  · rw [← hSame, hAt]
  · rw [hAt] at hFile
    cases hFile

theorem at?_regenerate_json (hName : IsDocumentName name) :
    (regenerate w schemaName base).workspace.at? (ArtifactPaths.of base name).json.target =
      w.at? (ArtifactPaths.of base name).json.target := by
  rcases at?_regenerate w schemaName base (ArtifactPaths.of base name).json.target with
    hSame | ⟨-, other, _, hOther, -, hTarget, -⟩
  · exact hSame
  · exact absurd hTarget.symm (ArtifactPaths.target_json_ne_markdown base hOther hName)

theorem at?_regenerate_markdown (hName : IsDocumentName name)
    (hSkipped : isLoadable w (.of base name) = false) :
    (regenerate w schemaName base).workspace.at? (ArtifactPaths.of base name).markdown.target =
      w.at? (ArtifactPaths.of base name).markdown.target := by
  rcases at?_regenerate w schemaName base (ArtifactPaths.of base name).markdown.target with
    hSame | ⟨-, other, _, hOther, hLoadable, hTarget, -⟩
  · exact hSame
  · refine absurd hTarget (ArtifactPaths.target_markdown_ne_markdown base hName hOther ?_)
    rintro rfl
    rw [hSkipped] at hLoadable
    cases hLoadable

theorem read?_regenerate_json (hName : IsDocumentName name) :
    (regenerate w schemaName base).workspace.read? (ArtifactPaths.of base name).json =
      w.read? (ArtifactPaths.of base name).json :=
  Workspace.read?_eq_of_keepsDirectories grows_regenerate.directories
    keepsDirectories_of_regenerate (Workspace.file?_congr (at?_regenerate_json hName))

theorem read?_regenerate_skipped (hName : IsDocumentName name)
    (hSkipped : isLoadable w (.of base name) = false) :
    (regenerate w schemaName base).workspace.read? (ArtifactPaths.of base name).markdown =
      w.read? (ArtifactPaths.of base name).markdown :=
  Workspace.read?_eq_of_keepsDirectories grows_regenerate.directories
    keepsDirectories_of_regenerate (Workspace.file?_congr (at?_regenerate_markdown hName hSkipped))

end

end Artifact

end ReportPress
