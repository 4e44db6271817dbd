import Mathlib.Data.List.Nodup
import ReportPress.Artifact.Save
import ReportPress.Proofs.Artifact.Paths
import ReportPress.Proofs.Except
import ReportPress.Proofs.Markdown.Statistics
import ReportPress.Proofs.Workspace.Directories

/-!
What saving a report comes to. It gives the places of the two artifacts once both are written; when
it ends on the way, nothing is taken back, so directories and the JSON artifact may be left, and an
artifact whose text cannot be encoded is left empty. Main statement: `save_effect`.
-/

namespace ReportPress

namespace Artifact

open Statistics

/-- What can come of saving the texts of a document. -/
inductive Saves (w : Workspace) (paths : ArtifactPaths) (artifacts : Artifacts) :
    Outcome ArtifactPaths → Prop
  | unwritten {w' : Workspace} {notices : List Notice} {failure : Failure}
      (hMade : Workspace.MakesDirectories w w' paths.directory) :
      Saves w paths artifacts ⟨w', notices, .error failure⟩
  | jsonEmptied {w₁ w₂ : Workspace} {notices : List Notice} {failure : Failure} {json : LooseText}
      (hMade : Workspace.MakesDirectories w w₁ paths.directory)
      (hText : artifacts.json = .ok json) (hNotPlain : ¬ json.IsPlain)
      (hJson : w₁.writeBytes paths.json [] = .ok w₂) :
      Saves w paths artifacts ⟨w₂, notices, .error failure⟩
  | halfWritten {w₁ w₂ : Workspace} {notices : List Notice} {failure : Failure} {text : String}
      (hMade : Workspace.MakesDirectories w w₁ paths.directory)
      (hText : artifacts.json = .ok text)
      (hJson : w₁.writeBytes paths.json (Text.Utf8.encode text) = .ok w₂)
      (hStopped : ∀ markdown, artifacts.markdown = .ok markdown →
        ∃ e, w₂.writeBytes paths.markdown markdown.written = .error e) :
      Saves w paths artifacts ⟨w₂, notices, .error failure⟩
  | markdownEmptied {w₁ w₂ w₃ : Workspace} {notices : List Notice} {failure : Failure}
      {text : String} {markdown : LooseText}
      (hMade : Workspace.MakesDirectories w w₁ paths.directory)
      (hText : artifacts.json = .ok text)
      (hJson : w₁.writeBytes paths.json (Text.Utf8.encode text) = .ok w₂)
      (hDocument : artifacts.markdown = .ok markdown) (hNotPlain : ¬ markdown.IsPlain)
      (hMarkdown : w₂.writeBytes paths.markdown [] = .ok w₃) :
      Saves w paths artifacts ⟨w₃, notices, .error failure⟩
  | written {w₁ w₂ w₃ : Workspace} {notices : List Notice} {text document : String}
      (hMade : Workspace.MakesDirectories w w₁ paths.directory)
      (hText : artifacts.json = .ok text)
      (hJson : w₁.writeBytes paths.json (Text.Utf8.encode text) = .ok w₂)
      (hDocument : artifacts.markdown = .ok document)
      (hMarkdown : w₂.writeBytes paths.markdown (Text.Utf8.encode document) = .ok w₃) :
      Saves w paths artifacts ⟨w₃, notices, .ok paths⟩

theorem saves_saveTexts (w : Workspace) (paths : ArtifactPaths) (artifacts : Artifacts) :
    Saves w paths artifacts (saveTexts w paths artifacts) := by
  -- one case for each step that can fail, in the order in which they are taken
  unfold saveTexts
  have hMade := Workspace.makesDirectories_makeDirectories w paths.directory
  generalize w.makeDirectories paths.directory = directories at hMade ⊢
  obtain ⟨w₁, made⟩ := directories
  cases made with
  | error e => exact .unwritten hMade
  | ok made =>
    dsimp only
    cases hText : artifacts.json with
    | error failure => exact .unwritten hMade
    | ok json =>
      dsimp only
      have hJson := Workspace.writesText_writeText w₁ paths.json json
      generalize w₁.writeText paths.json json = first at hJson ⊢
      cases hJson with
      | refused => exact .unwritten hMade
      | emptied hNotPlain hJson => exact .jsonEmptied hMade hText hNotPlain hJson
      | @written w₂ text hPlain hJson =>
        subst hPlain
        dsimp only
        cases hDocument : artifacts.markdown with
        | error failure => exact .halfWritten hMade hText hJson (by simp [hDocument])
        | ok markdown =>
          dsimp only
          have hMarkdown := Workspace.writesText_writeText w₂ paths.markdown markdown
          generalize w₂.writeText paths.markdown markdown = second at hMarkdown ⊢
          cases hMarkdown with
          | @refused e hRefused =>
            refine .halfWritten hMade hText hJson fun other hOther => ⟨e, ?_⟩
            rw [hDocument] at hOther
            obtain rfl := Except.ok.inj hOther
            exact hRefused
          | emptied hNotPlain hMarkdown =>
            exact .markdownEmptied hMade hText hJson hDocument hNotPlain hMarkdown
          | written hPlain hMarkdown =>
            subst hPlain
            exact .written hMade hText hJson hDocument hMarkdown

/-- Saving makes directories and writes the JSON artifact and then the Markdown, as far as it
comes. -/
theorem Saves.exists_writes {w : Workspace} {paths : ArtifactPaths} {artifacts : Artifacts}
    {outcome : Outcome ArtifactPaths} (h : Saves w paths artifacts outcome) :
    ∃ w₁, Workspace.MakesDirectories w w₁ paths.directory ∧
      (outcome.workspace = w₁ ∨ ∃ json w₂, w₁.writeBytes paths.json json = .ok w₂ ∧
        (outcome.workspace = w₂ ∨
          ∃ markdown, w₂.writeBytes paths.markdown markdown = .ok outcome.workspace)) := by
  cases h with
  | unwritten hMade => exact ⟨_, hMade, .inl rfl⟩
  | jsonEmptied hMade _ _ hJson => exact ⟨_, hMade, .inr ⟨_, _, hJson, .inl rfl⟩⟩
  | halfWritten hMade _ hJson => exact ⟨_, hMade, .inr ⟨_, _, hJson, .inl rfl⟩⟩
  | markdownEmptied hMade _ hJson _ _ hMarkdown =>
    exact ⟨_, hMade, .inr ⟨_, _, hJson, .inr ⟨_, hMarkdown⟩⟩⟩
  | written hMade _ hJson _ hMarkdown =>
    exact ⟨_, hMade, .inr ⟨_, _, hJson, .inr ⟨_, hMarkdown⟩⟩⟩

section

variable {w w' : Workspace} {base : Path} {name : String} {artifacts : Artifacts}
  {location : Location}

/-- Writing the Markdown leaves the JSON artifact that was just written. -/
theorem readBytes_json {w₁ w₂ : Workspace} {json markdown : List UInt8}
    (hJson : w.writeBytes (ArtifactPaths.of base name).json json = .ok w₁)
    (hMarkdown : w₁.writeBytes (ArtifactPaths.of base name).markdown markdown = .ok w₂) :
    w₂.readBytes (ArtifactPaths.of base name).json = .ok json := by
  have hBytes := Workspace.readBytes_of_writeBytes hJson fun _ hLocate =>
    (ArtifactPaths.locate_json hLocate).1
  obtain ⟨place, hPlace, -⟩ := Workspace.readBytes_eq_ok_iff.1 hBytes
  obtain ⟨location, hLocation, -⟩ := Workspace.writeBytes_eq_ok_iff.1 hMarkdown
  exact Workspace.readBytes_of_writeBytes_of_ne hBytes hMarkdown
    (ArtifactPaths.target_ne hPlace hLocation).symm

theorem readBytes_saveTexts {paths : ArtifactPaths}
    (h : (saveTexts w (.of base name) artifacts).result = .ok paths) :
    ArtifactPaths.of base name = paths ∧ ∃ text document : String, artifacts.json = .ok text ∧
      artifacts.markdown = .ok document ∧
        (saveTexts w (.of base name) artifacts).workspace.readBytes paths.json =
            .ok (Text.Utf8.encode text) ∧
          (saveTexts w (.of base name) artifacts).workspace.readBytes paths.markdown =
            .ok (Text.Utf8.encode document) := by
  have hSaves := saves_saveTexts w (.of base name) artifacts
  generalize saveTexts w (.of base name) artifacts = outcome at h hSaves ⊢
  cases hSaves with
  | @written w₁ w₂ w₃ _ text document hMade hText hJson hDocument hMarkdown =>
    obtain rfl := Except.ok.inj h
    have hMarkdownBytes := Workspace.readBytes_of_writeBytes hMarkdown fun _ hLocate =>
      (ArtifactPaths.locate_markdown hLocate).1
    exact ⟨rfl, text, document, hText, hDocument, readBytes_json hJson hMarkdown, hMarkdownBytes⟩
  | _ => cases h

/-- What a location may hold once saving has failed: what it held before, a directory on the way to
that of the document, what can be written of the JSON text, if the Markdown was not reached or
failed, or nothing of a Markdown that cannot be encoded. -/
inductive Leaves (w : Workspace) (paths : ArtifactPaths) (artifacts : Artifacts) (w' : Workspace)
    (location : Location) : Prop
  | kept (hKept : w'.at? location = w.at? location)
  | directory (hNone : w.at? location = none) (hMade : w'.at? location = some .directory)
      (hOnWay : ∃ count, (paths.directory.front count).target = location)
  | json (text : LooseText) (hText : artifacts.json = .ok text)
      (hFree : w.at? location ≠ some .directory) (hPlace : w'.locate paths.json = .ok location)
      (hHolds : w'.at? location = some (.file text.written))
      (hStopped : ¬ text.IsPlain ∨ ∀ markdown, artifacts.markdown = .ok markdown →
        ∃ e, (w'.writeText paths.markdown markdown).2 = .error e)
  | markdown (text : LooseText) (hText : artifacts.markdown = .ok text)
      (hNotPlain : ¬ text.IsPlain) (hFree : w.at? location ≠ some .directory)
      (hPlace : w'.locate paths.markdown = .ok location)
      (hHolds : w'.at? location = some (.file []))
      (hJson : ∃ json : String, artifacts.json = .ok json ∧
        w'.readBytes paths.json = .ok (Text.Utf8.encode json))

theorem leaves_of_makesDirectories {w₁ : Workspace} {paths : ArtifactPaths}
    (hMade : Workspace.MakesDirectories w w₁ paths.directory)
    (hSame : w'.at? location = w₁.at? location) : Leaves w paths artifacts w' location := by
  rcases hMade location with hKept | ⟨hNone, hDirectory, hOnWay⟩
  · exact .kept (hSame.trans hKept)
  · exact .directory hNone (hSame.trans hDirectory) hOnWay

theorem exists_writeText_error {path : Path} {text : LooseText} (h : ¬ text.IsPlain) :
    ∃ e, (w.writeText path text).2 = .error e := by
  have hWrites := Workspace.writesText_writeText w path text
  generalize w.writeText path text = outcome at hWrites ⊢
  cases hWrites with
  | refused => exact ⟨_, rfl⟩
  | emptied => exact ⟨_, rfl⟩
  | written hPlain => exact absurd (LooseText.isPlain_iff.2 ⟨_, hPlain⟩) h

/-- Once the directories are made and the JSON artifact is written, only its place has changed
besides. -/
theorem leaves_of_writeBytes {w₁ : Workspace} {json : LooseText}
    (hMade : Workspace.MakesDirectories w w₁ (ArtifactPaths.of base name).directory)
    (hText : artifacts.json = .ok json)
    (hJson : w₁.writeBytes (ArtifactPaths.of base name).json json.written = .ok w')
    (hStopped : ¬ json.IsPlain ∨ ∀ markdown, artifacts.markdown = .ok markdown →
      ∃ e, (w'.writeText (ArtifactPaths.of base name).markdown markdown).2 = .error e)
    (location : Location) : Leaves w (.of base name) artifacts w' location := by
  obtain ⟨place, hPlace, hFree, rfl⟩ := Workspace.writeBytes_eq_ok_iff.1 hJson
  by_cases hSame : location = place
  · subst hSame
    refine .json json hText (fun hAt => hFree (hMade.keepsDirectories _ hAt)) ?_ ?_ hStopped
    · exact Workspace.locate_of_keepsDirectories (Workspace.keepsDirectories_put hFree) hPlace
    · exact Workspace.at?_put_self w₁ _ (ArtifactPaths.locate_json hPlace).1
  · exact leaves_of_makesDirectories hMade (Workspace.at?_put_of_ne w₁ _ hSame)

theorem leaves_saveTexts {failure : Failure}
    (h : (saveTexts w (.of base name) artifacts).result = .error failure) (location : Location) :
    Leaves w (.of base name) artifacts (saveTexts w (.of base name) artifacts).workspace
      location := by
  have hSaves := saves_saveTexts w (.of base name) artifacts
  generalize saveTexts w (.of base name) artifacts = outcome at h hSaves ⊢
  cases hSaves with
  | unwritten hMade => exact leaves_of_makesDirectories hMade rfl
  | jsonEmptied hMade hText hNotPlain hJson =>
    rw [← LooseText.written_of_not_isPlain hNotPlain] at hJson
    exact leaves_of_writeBytes hMade hText hJson (.inl hNotPlain) location
  | halfWritten hMade hText hJson hStopped =>
    rw [← LooseText.written_ofString] at hJson
    refine leaves_of_writeBytes hMade hText hJson (.inr fun markdown hMarkdown => ?_) location
    obtain ⟨e, hRefused⟩ := hStopped markdown hMarkdown
    exact ⟨.file e, by rw [Workspace.writeText, hRefused]⟩
  | @markdownEmptied w₁ w₂ w₃ _ _ text markdown hMade hText hJson hDocument hNotPlain hMarkdown =>
    have hFails (w : Workspace) : ∀ other, artifacts.markdown = .ok other →
        ∃ e, (w.writeText (ArtifactPaths.of base name).markdown other).2 = .error e := by
      intro other hOther
      rw [hDocument] at hOther
      obtain rfl := Except.ok.inj hOther
      exact exists_writeText_error hNotPlain
    have hBytes := readBytes_json hJson hMarkdown
    rw [← LooseText.written_ofString] at hJson
    have hBefore := leaves_of_writeBytes hMade hText hJson (.inr (hFails w₂)) location
    have hKeepsJson := Workspace.keepsDirectories_of_writeBytes hJson
    obtain ⟨place, hPlace, hFree, rfl⟩ := Workspace.writeBytes_eq_ok_iff.1 hMarkdown
    have hKeeps : Workspace.KeepsDirectories w₂ (w₂.put place (.file [])) :=
      Workspace.keepsDirectories_put hFree
    by_cases hSame : location = place
    · subst hSame
      refine .markdown markdown hDocument hNotPlain (fun hAt => hFree ?_)
        (Workspace.locate_of_keepsDirectories hKeeps hPlace)
        (Workspace.at?_put_self _ _ (ArtifactPaths.locate_markdown hPlace).1) ⟨text, hText, hBytes⟩
      exact hKeepsJson _ (hMade.keepsDirectories _ hAt)
    · -- everything but the Markdown is as it was before this was tried
      have hAt := Workspace.at?_put_of_ne w₂ (.file []) hSame
      cases hBefore with
      | kept hKept => exact .kept (hAt.trans hKept)
      | directory hNone hMade hOnWay => exact .directory hNone (hAt.trans hMade) hOnWay
      | json json hJson hFree hPlace hHolds =>
        exact .json json hJson hFree (Workspace.locate_of_keepsDirectories hKeeps hPlace)
          (hAt.trans hHolds) (.inr (hFails _))
      | markdown _ _ _ _ hOther =>
        exact absurd (Except.ok.inj (hOther.symm.trans hPlace)) hSame
  | written => cases h

/-- What saving the texts of a document comes to: it gives the places of the artifacts, which then
hold the texts, or it fails and leaves something at some places. -/
def HasSaveEffect (w : Workspace) (paths : ArtifactPaths) (artifacts : Artifacts)
    (outcome : Outcome ArtifactPaths) : Prop :=
  (outcome.result = .ok paths ∧ ∃ text document : String, artifacts.json = .ok text ∧
    artifacts.markdown = .ok document ∧
      outcome.workspace.readBytes paths.json = .ok (Text.Utf8.encode text) ∧
        outcome.workspace.readBytes paths.markdown = .ok (Text.Utf8.encode document)) ∨
  ((∃ failure, outcome.result = .error failure) ∧
    ∀ location, Leaves w paths artifacts outcome.workspace location)

end

/-- Saving gives the places of the two artifacts, which then hold their texts, or it fails. Nothing
is taken back then: directories on the way to the document's may have been made, and once the JSON
artifact holds its text it stays, whether the Markdown cannot be rendered or cannot be written. An
artifact whose text cannot be encoded is left empty. Everything else is as it was. This is so for
all texts, and those of a report among them. -/
theorem save_effect (w : Workspace) (base : Path) (name : String) :
    (∀ artifacts, HasSaveEffect w (.of base name) artifacts
      (saveTexts w (.of base name) artifacts)) ∧
    ∀ report schemaName usage cost,
      HasSaveEffect w (.of base name) (.of report schemaName usage cost)
        (save w base report name schemaName usage cost) := by
  have hTexts (artifacts : Artifacts) :
      HasSaveEffect w (.of base name) artifacts (saveTexts w (.of base name) artifacts) := by
    cases hResult : (saveTexts w (.of base name) artifacts).result with
    | ok paths =>
      obtain ⟨rfl, hSaved⟩ := readBytes_saveTexts hResult
      exact .inl ⟨hResult, hSaved⟩
    | error failure => exact .inr ⟨⟨failure, hResult⟩, leaves_saveTexts hResult⟩
  exact ⟨hTexts, fun _ _ _ _ => hTexts _⟩

section

variable {w : Workspace} {base : Path} {report : Report} {name : String} {schemaName : LooseText}
  {usage : TokenUsage} {cost : Cost}

theorem json_of_eq_ok_iff {json : LooseText} :
    (Artifacts.of report schemaName usage cost).json = .ok json ↔
      ∃ text : String, report.artifactText = .ok text ∧ text = json := by
  rw [Artifacts.of, Except.map_eq_ok_iff]
  simp only [Except.mapError_eq_ok_iff]

theorem artifactText_of_json {text : String}
    (h : (Artifacts.of report schemaName usage cost).json = .ok text) :
    report.artifactText = .ok text := by
  obtain ⟨other, hOther, hSame⟩ := json_of_eq_ok_iff.1 h
  rwa [LooseText.ofString_inj.1 hSame] at hOther

theorem markdown_of_eq_ok_iff {markdown : LooseText} :
    (Artifacts.of report schemaName usage cost).markdown = .ok markdown ↔
      Markdown.document report schemaName usage cost = .ok markdown := by
  rw [Artifacts.of, Except.mapError_eq_ok_iff]

theorem readBytes_save {paths : ArtifactPaths}
    (h : (save w base report name schemaName usage cost).result = .ok paths) :
    ArtifactPaths.of base name = paths ∧ ∃ text document : String,
      report.artifactText = .ok text ∧
      Markdown.document report schemaName usage cost = .ok document ∧
        (save w base report name schemaName usage cost).workspace.readBytes paths.json =
            .ok (Text.Utf8.encode text) ∧
          (save w base report name schemaName usage cost).workspace.readBytes paths.markdown =
            .ok (Text.Utf8.encode document) := by
  obtain ⟨hPaths, text, document, hText, hDocument, hBytes⟩ := readBytes_saveTexts h
  exact ⟨hPaths, text, document, artifactText_of_json hText, markdown_of_eq_ok_iff.1 hDocument,
    hBytes⟩

/-- A Markdown artifact stays as it is when saving fails, unless the name of the schema holds a
surrogate. -/
theorem readBytes_markdown_of_failed {failure : Failure} {old : List UInt8}
    (hSchema : schemaName.IsPlain)
    (h : (save w base report name schemaName usage cost).result = .error failure)
    (hOld : w.readBytes (ArtifactPaths.of base name).markdown = .ok old) :
    (save w base report name schemaName usage cost).workspace.readBytes
      (ArtifactPaths.of base name).markdown = .ok old := by
  have hSaves := saves_saveTexts w (.of base name) (.of report schemaName usage cost)
  rw [save] at h ⊢
  generalize saveTexts w (.of base name) (.of report schemaName usage cost) = outcome
    at h hSaves ⊢
  -- what was written of the JSON text is apart from the Markdown
  have hJson {w₁ w₂ : Workspace} {json : List UInt8}
      (hMade : Workspace.MakesDirectories w w₁ (ArtifactPaths.of base name).directory)
      (hJson : w₁.writeBytes (ArtifactPaths.of base name).json json = .ok w₂) :
      w₂.readBytes (ArtifactPaths.of base name).markdown = .ok old := by
    have hKept := hMade.readBytes hOld
    obtain ⟨place, hPlace, -⟩ := Workspace.writeBytes_eq_ok_iff.1 hJson
    obtain ⟨location, hLocation, -⟩ := Workspace.readBytes_eq_ok_iff.1 hKept
    exact Workspace.readBytes_of_writeBytes_of_ne hKept hJson
      (ArtifactPaths.target_ne hPlace hLocation)
  cases hSaves with
  | unwritten hMade => exact hMade.readBytes hOld
  | jsonEmptied hMade _ _ hWritten => exact hJson hMade hWritten
  | halfWritten hMade _ hWritten => exact hJson hMade hWritten
  | markdownEmptied _ _ _ hDocument hNotPlain =>
    exact absurd ((isPlain_document_iff (markdown_of_eq_ok_iff.1 hDocument)).2 hSchema) hNotPlain
  | written => cases h

end

/-- A report saved in an empty workspace, for a run that cost nothing. -/
def savedAlone (report : Report) : Outcome ArtifactPaths :=
  save .empty ⟨.here, ["out"]⟩ report "report" "default" .zero (.whole 0)

/-- The places of its artifacts, and the workspace once their directory is made. -/
def alonePaths : ArtifactPaths := .of ⟨.here, ["out"]⟩ "report"
def aloneDirectory : Workspace := (Workspace.empty.makeDirectories alonePaths.directory).1

/-- The report is saved if it has a text and can be shown. -/
theorem savedAlone_eq_ok {report : Report} {text : String} (hText : report.artifactText = .ok text)
    (hShown : report.IsShowable) : (savedAlone report).result = .ok alonePaths := by
  obtain ⟨document, hDocument⟩ :=
    exists_document_ofString "default" isWritable_zero costText_zero hShown
  have hJsonText : (Artifacts.of report "default" .zero (.whole 0)).json = .ok ↑text :=
    json_of_eq_ok_iff.2 ⟨text, hText, rfl⟩
  have hMade : Workspace.empty.makeDirectories alonePaths.directory = (aloneDirectory, .ok ()) :=
    Prod.ext rfl (by decide +kernel)
  -- the texts are not known, but nothing else stands at the places where they are written
  have hPlace : aloneDirectory.locate alonePaths.markdown = .ok ["out", "report", "REPORT.md"] := by
    decide +kernel
  have hJson : aloneDirectory.writeBytes alonePaths.json (Text.Utf8.encode text) = .ok
      (aloneDirectory.put ["out", "report", "report.json"] (.file (Text.Utf8.encode text))) :=
    Workspace.writeBytes_eq_ok_iff.2 ⟨_, by decide +kernel, by decide +kernel, rfl⟩
  have hKept := Workspace.locate_of_keepsDirectories
    (Workspace.keepsDirectories_of_writeBytes hJson) hPlace
  generalize hWithJson : aloneDirectory.put _ _ = withJson at hJson hKept
  obtain ⟨done, hMarkdown⟩ :
      ∃ done, withJson.writeBytes alonePaths.markdown (Text.Utf8.encode document) = .ok done := by
    refine ⟨_, Workspace.writeBytes_eq_ok_iff.2 ⟨_, hKept, ?_, rfl⟩⟩
    rw [← hWithJson, Workspace.at?_put_of_ne _ _ (by decide)]
    decide +kernel
  rw [savedAlone, save, ← alonePaths]
  simp only [saveTexts, hMade, hJsonText, Workspace.writeText_ofString_eq_ok_iff.2 hJson,
    markdown_of_eq_ok_iff.2 hDocument, Workspace.writeText_ofString_eq_ok_iff.2 hMarkdown]

/-- A report of which only an edition is told. -/
def edition (number : Int) : Report := ⟨none, none, [("edition", .int number)]⟩

/-- The second edition saved over the first, at a cost beyond all numbers with a fraction. -/
def secondEdition : Outcome ArtifactPaths :=
  save (savedAlone (edition 1)).workspace ⟨.here, ["out"]⟩ (edition 2) "report" "default" .zero
    (.whole (.ofNat (Nat.pow 10 400)))

/-- The second edition saved over the first, for a schema whose name is a surrogate. -/
def looseEdition : Outcome ArtifactPaths :=
  save (savedAlone (edition 1)).workspace ⟨.here, ["out"]⟩ (edition 2) "report" ⟨[.surrogate 0]⟩
    .zero (.whole 0)

theorem exists_error_of_isOk {α : Type} {outcome : Outcome α} (h : outcome.result.isOk = false) :
    ∃ failure, outcome.result = .error failure := by
  cases hResult : outcome.result with
  | error failure => exact ⟨failure, rfl⟩
  | ok a =>
    rw [hResult] at h
    cases h

/-- The first edition is saved. Saving the second fails, and leaves its JSON artifact beside the
Markdown of the first, or beside an empty one. -/
theorem mixed_secondEdition : ∃ paths first second old,
    (savedAlone (edition 1)).result = .ok paths ∧
      (edition 1).artifactText = .ok first ∧ (edition 2).artifactText = .ok second ∧
        first ≠ second ∧
        (savedAlone (edition 1)).workspace.readBytes paths.json = .ok (Text.Utf8.encode first) ∧
        (savedAlone (edition 1)).workspace.readBytes paths.markdown = .ok old ∧
      (∃ failure, secondEdition.result = .error failure) ∧
        secondEdition.workspace.readBytes paths.json = .ok (Text.Utf8.encode second) ∧
        secondEdition.workspace.readBytes paths.markdown = .ok old ∧
      (∃ failure, looseEdition.result = .error failure) ∧
        looseEdition.workspace.readBytes paths.json = .ok (Text.Utf8.encode second) ∧
        looseEdition.workspace.readBytes paths.markdown = .ok [] := by
  have hFirst : (savedAlone (edition 1)).result.isOk = true := by decide +kernel
  obtain ⟨paths, hResult⟩ := Except.exists_of_isOk hFirst
  have hSecond : ∃ failure, secondEdition.result = .error failure :=
    exists_error_of_isOk (by decide +kernel)
  have hLoose : ∃ failure, looseEdition.result = .error failure :=
    exists_error_of_isOk (by decide +kernel)
  obtain ⟨failure, hFailed⟩ := hSecond
  obtain ⟨rfl, _, document, -, -, -, hMarkdown⟩ := readBytes_save hResult
  have hKept := readBytes_markdown_of_failed (LooseText.isPlain_ofString _) hFailed hMarkdown
  exact ⟨_, "\x7b\n  \"edition\": 1\n\x7d", "\x7b\n  \"edition\": 2\n\x7d", _, hResult,
    by decide +kernel, by decide +kernel, by decide, by decide +kernel, hMarkdown,
    ⟨failure, hFailed⟩, by decide +kernel, hKept, hLoose, by decide +kernel, by decide +kernel⟩

end Artifact

end ReportPress
