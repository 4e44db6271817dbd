import Mathlib.Data.List.Sort
import ReportPress.Proofs.Artifact.Calls
import ReportPress.Proofs.Artifact.Runs

/-!
Regenerating twice. Wherever in a file the first run found the figures of a document, it writes them
into the table in front, where a second run finds them; so the second run renders the same text over
the first. Main statement: `regenerate_regenerate`.
-/

namespace ReportPress

theorem Markdown.document_congr {report : Report} {schemaName : LooseText} {usage : TokenUsage}
    {cost cost' : Cost} (h : Statistics.costText cost = Statistics.costText cost') :
    document report schemaName usage cost = document report schemaName usage cost' := by
  rw [document, document, documentOf, documentOf, Statistics.lines, Statistics.lines, h]

namespace Artifact

open Statistics

section

variable {w w' : Workspace} {base : Path} {name schemaName text : String} {paths : ArtifactPaths}

theorem isAmount_of_figuresIn {markdown : Path} {usage : TokenUsage} {cost : Binary64}
    (h : figuresIn w markdown = .ok (usage, cost)) (hFinite : cost.isFinite = true) :
    IsAmount (cost.fixed costPlaces).toList := by
  refine IsUnsigned.isAmount ?_ hFinite
  rw [figuresIn] at h
  split at h
  · obtain ⟨-, rfl⟩ := Prod.mk.inj (Except.ok.inj h)
    exact isUnsigned_zero
  · exact isUnsigned_of_recover h

/-- A document of the figures of a report that is loaded is rendered as itself where it stands in
the place of the Markdown. -/
theorem isRendering_of_document {report : Report} {usage : TokenUsage} {cost : Binary64}
    (hSchema : '|' ∉ schemaName.toList) (hAmount : IsAmount (cost.fixed costPlaces).toList)
    (hLoad : load w paths.json = .ok report)
    (hDocument : Markdown.document report schemaName usage (.exact cost) = .ok text)
    (hMarkdown : w.readBytes paths.markdown = .ok (Text.Utf8.encode text)) :
    IsRendering w schemaName paths text := by
  obtain ⟨hUsage, hTable⟩ :=
    holdsTable_of_document hSchema (costText_exact cost) hDocument hMarkdown
  have hCost : costText (.exact (costOf (cost.fixed costPlaces).toList)) =
      costText (.exact cost) := by
    rw [hAmount.costText_costOf, String.ofList_toList, costText_exact]
  refine ⟨report, usage, _, hLoad, hTable.figuresIn hUsage hAmount, ?_⟩
  rw [Markdown.document_congr hCost, hDocument]

theorem isRendering_rendered (hSchema : '|' ∉ schemaName.toList)
    (hRendering : IsRendering w schemaName paths text)
    (hFinite : ∀ usage cost, figuresIn w paths.markdown = .ok (usage, cost) →
      cost.isFinite = true)
    (hJson : w.read? paths.json = w'.read? paths.json)
    (hMarkdown : w'.readBytes paths.markdown = .ok (Text.Utf8.encode text)) :
    IsRendering w' schemaName paths text := by
  obtain ⟨report, usage, cost, hLoad, hFigures, hDocument⟩ := hRendering
  exact isRendering_of_document hSchema
    (isAmount_of_figuresIn hFigures (hFinite usage cost hFigures)) (load_congr hJson hLoad)
    hDocument hMarkdown

theorem holdsDirectory_regenerate_iff :
    (regenerate w schemaName base).workspace.HoldsDirectory base name ↔
      w.HoldsDirectory base name := by
  constructor
  · exact fun h => ⟨h.isName, Workspace.entry_directory_of_keepsDirectories
      keepsDirectories_of_regenerate h.isDirectory⟩
  · exact fun h => ⟨h.isName, Workspace.entry_directory_of_keepsDirectories
      grows_regenerate.directories h.isDirectory⟩

theorem isLoadable_regenerate (hName : IsDocumentName name) :
    isLoadable (regenerate w schemaName base).workspace (.of base name) =
      isLoadable w (.of base name) :=
  isLoadable_congr (read?_regenerate_json hName)

theorem mem_children_regenerate_iff :
    name ∈ (regenerate w schemaName base).workspace.children base.target ↔
      name ∈ w.children base.target := by
  rw [Workspace.mem_children_iff, Workspace.mem_children_iff]
  rcases at?_regenerate w schemaName base (base.target ++ [name]) with
    hSame | ⟨-, other, _, hOther, -, hTarget, -⟩
  · rw [hSame]
  · rw [ArtifactPaths.target_markdown base hOther] at hTarget
    simp at hTarget

end

section

variable {w : Workspace} {base : Path} {name schemaName : String} {paths : List Path}
  (hSchema : '|' ∉ schemaName.toList)
  (hResult : (regenerate w schemaName base).result = .ok paths)
  (hFinite : ∀ name, w.HoldsDirectory base name → isLoadable w (.of base name) = true →
    ∀ usage cost, figuresIn w (ArtifactPaths.of base name).markdown = .ok (usage, cost) →
      cost.isFinite = true)

include hSchema hResult hFinite

theorem isRendering_regenerate (hHeld : w.HoldsDirectory base name)
    (hLoadable : isLoadable w (.of base name) = true) :
    ∃ text : String, (regenerate w schemaName base).workspace.readBytes
        (ArtifactPaths.of base name).markdown = .ok (Text.Utf8.encode text) ∧
      IsRendering (regenerate w schemaName base).workspace schemaName (.of base name) text := by
  obtain ⟨names, -, hNames, -, hTexts⟩ := regenerate_eq_ok hResult
  obtain ⟨text, hRendering, hBytes⟩ := hTexts name ((hNames name).2 ⟨hHeld, hLoadable⟩)
  refine ⟨text, hBytes, isRendering_rendered hSchema hRendering (hFinite name hHeld hLoadable) ?_
    hBytes⟩
  exact (read?_regenerate_json (isDocumentName_of_isEntryName hHeld.isName)).symm

/-- Nothing stands in the way of regenerating a document again. -/
theorem canRegenerate_regenerate (hHeld : w.HoldsDirectory base name)
    (hClear : CanRegenerate w schemaName (.of base name)) :
    CanRegenerate (regenerate w schemaName base).workspace schemaName (.of base name) := by
  have hLoadable : isLoadable (regenerate w schemaName base).workspace (.of base name) =
      isLoadable w (.of base name) :=
    isLoadable_regenerate (isDocumentName_of_isEntryName hHeld.isName)
  have hFigures (h : isLoadable w (.of base name) = true) : ∃ figures,
      figuresIn w (ArtifactPaths.of base name).markdown = .ok figures := by
    obtain ⟨report, hLoad⟩ := isLoadable_iff.1 h
    exact (hClear.2 report hLoad).2.1
  have hRendered := isRendering_regenerate hSchema hResult hFinite hHeld
  obtain ⟨hJson, hMarkdown⟩ := (canRegenerate_iff_isShort hHeld hFigures).1 hClear
  refine (canRegenerate_iff_isShort (holdsDirectory_regenerate_iff.2 hHeld) fun h => ?_).2
    ⟨hJson, fun h => ?_⟩
  · obtain ⟨text, -, _, usage, cost, -, hFound, -⟩ := hRendered (hLoadable.symm.trans h)
    exact ⟨(usage, cost), hFound⟩
  · rw [hLoadable] at h
    obtain ⟨text, hBytes, -⟩ := hRendered h
    obtain ⟨hPlain, hShort, -⟩ := hMarkdown h
    refine ⟨hPlain, hShort, ?_⟩
    rw [Workspace.entry_eq_ok_iff.2 (Workspace.readBytes_eq_ok_iff.1 hBytes)]
    simp

theorem result_regenerate (hBase : w.entry base = .ok .directory) :
    (regenerate (regenerate w schemaName base).workspace schemaName base).result = .ok paths := by
  obtain ⟨hShort, hClear⟩ := (exists_regenerate_iff schemaName hBase).1 ⟨paths, hResult⟩
  have hBase' : (regenerate w schemaName base).workspace.entry base = .ok .directory :=
    Workspace.entry_directory_of_keepsDirectories grows_regenerate.directories hBase
  obtain ⟨paths', hResult'⟩ := (exists_regenerate_iff schemaName hBase').2
    ⟨fun name hName => hShort name (mem_children_regenerate_iff.1 hName), fun name hHeld' =>
      have hHeld := holdsDirectory_regenerate_iff.1 hHeld'
      canRegenerate_regenerate hSchema hResult hFinite hHeld (hClear name hHeld)⟩
  obtain ⟨names, hSorted, hNames, rfl, -⟩ := regenerate_eq_ok hResult
  obtain ⟨names', hSorted', hNames', rfl, -⟩ := regenerate_eq_ok hResult'
  have hSame : names' = names := by
    refine hSorted'.eq_of_mem_iff hSorted fun name => ?_
    rw [hNames, hNames', holdsDirectory_regenerate_iff]
    refine and_congr_right fun hHeld => ?_
    rw [isLoadable_regenerate (isDocumentName_of_isEntryName hHeld.isName)]
  rw [hResult', hSame]

/-- A second run writes what is there. -/
theorem at?_regenerate_again (location : Location) :
    (regenerate (regenerate w schemaName base).workspace schemaName base).workspace.at? location =
      (regenerate w schemaName base).workspace.at? location := by
  obtain ⟨names, hNames, hRenders⟩ :=
    regenerate_rendersOnly (regenerate w schemaName base).workspace schemaName base
  rcases hRenders location with hSame | ⟨-, name, hName, text, hRendering, hPlace, hFile⟩
  · exact hSame
  · have hHeld := holdsDirectory_regenerate_iff.1 (hNames name hName)
    have hLoadable := hRendering.isLoadable
    rw [isLoadable_regenerate (isDocumentName_of_isEntryName hHeld.isName)] at hLoadable
    obtain ⟨own, hBytes, hOwn⟩ := isRendering_regenerate hSchema hResult hFinite hHeld hLoadable
    obtain ⟨place, hOwnPlace, hAt⟩ := Workspace.readBytes_eq_ok_iff.1 hBytes
    obtain rfl := Except.ok.inj (hPlace.symm.trans hOwnPlace)
    rw [hFile, hAt, hRendering.unique hOwn, LooseText.written_ofString]

end

/-- Once a run has ended with a result, and the costs it found were numbers, running again tells the
same documents and leaves everything as it is. -/
theorem regenerate_regenerate {w : Workspace} {base : Path} {schemaName : String}
    {paths : List Path} (hSchema : '|' ∉ schemaName.toList)
    (hResult : (regenerate w schemaName base).result = .ok paths)
    (hFinite : ∀ name, w.HoldsDirectory base name → isLoadable w (.of base name) = true →
      ∀ usage cost, figuresIn w (ArtifactPaths.of base name).markdown = .ok (usage, cost) →
        cost.isFinite = true) :
    (regenerate (regenerate w schemaName base).workspace schemaName base).result = .ok paths ∧
      ∀ location,
        (regenerate (regenerate w schemaName base).workspace schemaName base).workspace.at?
            location =
          (regenerate w schemaName base).workspace.at? location := by
  refine ⟨?_, at?_regenerate_again hSchema hResult hFinite⟩
  cases hBase : w.isDirectory? base with
  | error e =>
    rw [regenerate, hBase] at hResult
    cases hResult
  | ok answer =>
    cases answer with
    | true =>
      exact result_regenerate hSchema hResult hFinite (Workspace.isDirectory?_eq_true_iff.1 hBase)
    | false =>
      -- without a base directory nothing changes
      have hSame : (regenerate w schemaName base).workspace = w := by
        rw [regenerate, hBase]
      rw [hSame, hResult]

/-- A document whose Markdown was edited by hand, with a count outside a table and a cost with too
many places. -/
def edited : Workspace :=
  ⟨[(["out"], .directory), (["out", "a"], .directory), (["out", "a", "a.json"], .file [0x7B, 0x7D]),
    (["out", "a", "A.md"],
      .file (Text.Utf8.encode "Input Tokens | 7,0 Estimated Cost (USD)** | **$1.00005"))],
    by decide, by decide⟩

theorem figuresIn_edited : figuresIn edited (ArtifactPaths.of ⟨.here, ["out"]⟩ "a").markdown =
    .ok (⟨70, 0, 0⟩, costOf "1.00005".toList) := by
  decide +kernel

theorem regenerate_regenerate_edited : ∃ paths,
    (regenerate edited "default" ⟨.here, ["out"]⟩).result = .ok paths ∧
      (regenerate (regenerate edited "default" ⟨.here, ["out"]⟩).workspace "default"
        ⟨.here, ["out"]⟩).result = .ok paths ∧
      ∀ location, (regenerate (regenerate edited "default" ⟨.here, ["out"]⟩).workspace "default"
          ⟨.here, ["out"]⟩).workspace.at? location =
        (regenerate edited "default" ⟨.here, ["out"]⟩).workspace.at? location := by
  have hFound : edited.subdirectories ⟨.here, ["out"]⟩ = .ok ["a"] := by decide +kernel
  have hReturns : (regenerate edited "default" ⟨.here, ["out"]⟩).result.isOk = true := by
    refine isOk_regenerate_of_listed (LooseText.isPlain_ofString _) (by decide +kernel) hFound ?_
    rw [List.forall_mem_singleton]
    exact ⟨⟨_, figuresIn_edited⟩, by decide +kernel⟩
  obtain ⟨paths, hResult⟩ := Except.exists_of_isOk hReturns
  refine ⟨paths, hResult, regenerate_regenerate (by decide) hResult ?_⟩
  intro name hHeld _ usage cost hFigures
  rw [List.mem_singleton.1 ((Workspace.mem_subdirectories_iff hFound).2 hHeld),
    figuresIn_edited] at hFigures
  obtain ⟨-, rfl⟩ := Prod.mk.inj (Except.ok.inj hFigures)
  decide +kernel

end Artifact

end ReportPress
