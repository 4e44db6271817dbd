import ReportPress.Proofs.Artifact.Rendering

/-!
What regenerating all documents below an output base comes to. Only Markdown artifacts of documents
with a report change, a run that ends with a result renders every one of them, and what can end a
run without one is told. Main statements: `regenerate_effect` and `regenerate_returns_iff`.
-/

namespace ReportPress.Artifact

open Statistics

section

variable {w : Workspace} {base : Path} {names : List String}

theorem documentNames_eq_ok_iff : documentNames w base = .ok names ↔
    ∃ found, w.subdirectories base = .ok found ∧
      found.mergeSort (fun a b => decide (a ≤ b)) = names := by
  rw [documentNames]
  cases w.subdirectories base <;> simp [Except.map]

theorem mem_documentNames_iff {name : String} (h : documentNames w base = .ok names) :
    name ∈ names ↔ w.HoldsDirectory base name := by
  obtain ⟨found, hFound, rfl⟩ := documentNames_eq_ok_iff.1 h
  rw [List.mem_mergeSort, Workspace.mem_subdirectories_iff hFound]

/-- The documents below an output base come in ascending order, each once. -/
theorem pairwise_documentNames (h : documentNames w base = .ok names) :
    names.Pairwise (· < ·) := by
  obtain ⟨found, hFound, rfl⟩ := documentNames_eq_ok_iff.1 h
  have hSorted : (found.mergeSort fun a b => decide (a ≤ b)).Pairwise (· ≤ ·) :=
    (List.pairwise_mergeSort (by simpa using fun a b c => String.le_trans)
      (by simpa using String.le_total) found).imp (by simp)
  have hNodup : (found.mergeSort fun a b => decide (a ≤ b)).Nodup :=
    (List.mergeSort_perm _ _).nodup_iff.2 (Workspace.nodup_subdirectories hFound)
  exact hSorted.imp₂ (fun a b => Std.lt_of_le_of_ne) hNodup

theorem nodup_documentNames (h : documentNames w base = .ok names) : names.Nodup := by
  refine (pairwise_documentNames h).imp ?_
  rintro a b hLt rfl
  exact String.lt_irrefl a hLt

/-- A run goes over all documents, unless it ends before the first. -/
theorem regenerate_cases (w : Workspace) (schemaName : LooseText) (base : Path) :
    (∃ names, documentNames w base = .ok names ∧
      regenerate w schemaName base = regenerateAll w schemaName base names) ∨
    (regenerate w schemaName base).workspace = w ∧
      ((∃ e, (regenerate w schemaName base).result = .error e) ∨
        (regenerate w schemaName base).result = .ok [] ∧ w.isDirectory? base = .ok false) := by
  simp only [regenerate]
  cases w.isDirectory? base with
  | error e => exact .inr ⟨rfl, .inl ⟨_, rfl⟩⟩
  | ok answer =>
    cases answer with
    | false => exact .inr ⟨rfl, .inr ⟨rfl, rfl⟩⟩
    | true =>
      cases documentNames w base with
      | error e => exact .inr ⟨rfl, .inl ⟨_, rfl⟩⟩
      | ok names => exact .inl ⟨names, rfl, rfl⟩

/-- A run writes nothing but renderings of documents, whether or not it ends on the way. -/
theorem regenerate_rendersOnly (w : Workspace) (schemaName : LooseText) (base : Path) :
    ∃ names, (∀ name ∈ names, w.HoldsDirectory base name) ∧
      RendersOnly w (regenerate w schemaName base).workspace schemaName base names := by
  rcases regenerate_cases w schemaName base with ⟨names, hNames, hRun⟩ | ⟨hSame, -⟩
  · have hDocuments : ∀ name ∈ names, w.HoldsDirectory base name :=
      fun name => (mem_documentNames_iff hNames).1
    rw [hRun]
    exact ⟨names, hDocuments, rendersOnly_regenerateAll (nodup_documentNames hNames) hDocuments⟩
  · rw [hSame]
    exact ⟨[], by simp, fun _ => .inl rfl⟩

/-- A run that ends with a result tells the Markdown of the documents that can be loaded, in
ascending order of their names, and leaves the rendering of each in it. -/
theorem regenerate_eq_ok {schemaName : LooseText} {paths : List Path}
    (h : (regenerate w schemaName base).result = .ok paths) :
    ∃ names : List String, names.Pairwise (· < ·) ∧
      (∀ name, name ∈ names ↔
        w.HoldsDirectory base name ∧ isLoadable w (.of base name) = true) ∧
      paths = names.map (fun name => (ArtifactPaths.of base name).markdown) ∧
        ∀ name ∈ names, ∃ text : String, IsRendering w schemaName (.of base name) text ∧
          (regenerate w schemaName base).workspace.readBytes
            (ArtifactPaths.of base name).markdown = .ok (Text.Utf8.encode text) := by
  rcases regenerate_cases w schemaName base with ⟨names, hNames, hRun⟩ | ⟨-, ⟨e, hFailed⟩ | hNone⟩
  · rw [hRun] at h ⊢
    obtain ⟨rfl, hTexts⟩ := regenerateAll_eq_ok (nodup_documentNames hNames)
      (fun name => (mem_documentNames_iff hNames).1) h
    refine ⟨_, (pairwise_documentNames hNames).filter _, fun name => ?_, rfl, fun name hName => ?_⟩
    · rw [List.mem_filter, mem_documentNames_iff hNames]
    · obtain ⟨hMem, hLoadable⟩ := List.mem_filter.1 hName
      exact hTexts name hMem hLoadable
  · rw [hFailed] at h
    cases h
  · obtain ⟨hEmpty, hBase⟩ := hNone
    rw [hEmpty] at h
    obtain rfl := Except.ok.inj h
    refine ⟨[], .nil, fun name => ?_, rfl, by simp⟩
    simp only [List.not_mem_nil, false_iff, not_and]
    exact fun hDocument => absurd hBase hDocument.isDirectory?_ne

end

/-- The whole effect of a run. Whether or not it ends with a result, it changes no JSON artifact and
nothing but Markdown artifacts of documents that can be loaded, which then hold what can be written
of their renderings. One that ends with a result tells the Markdown of exactly these, in ascending
order of their names, and each holds the rendering of what was there before the run. -/
theorem regenerate_effect (w : Workspace) (schemaName : LooseText) (base : Path) :
    (∀ location, (regenerate w schemaName base).workspace.at? location ≠ w.at? location →
      w.at? location ≠ some .directory ∧ ∃ name text, w.HoldsDirectory base name ∧
        IsRendering w schemaName (.of base name) text ∧
          w.locate (ArtifactPaths.of base name).markdown = .ok location ∧
            (regenerate w schemaName base).workspace.at? location =
              some (.file text.written)) ∧
    (∀ name, w.HoldsDirectory base name →
      (regenerate w schemaName base).workspace.entry (ArtifactPaths.of base name).json =
        w.entry (ArtifactPaths.of base name).json) ∧
    ∀ paths, (regenerate w schemaName base).result = .ok paths → ∃ names : List String,
      names.Pairwise (· < ·) ∧
      (∀ name, name ∈ names ↔ w.HoldsDirectory base name ∧
        ∃ report, load w (ArtifactPaths.of base name).json = .ok report) ∧
      paths = names.map (fun name => (ArtifactPaths.of base name).markdown) ∧
        ∀ name ∈ names, ∃ text : String, IsRendering w schemaName (.of base name) text ∧
          (regenerate w schemaName base).workspace.readBytes
            (ArtifactPaths.of base name).markdown = .ok (Text.Utf8.encode text) := by
  obtain ⟨names, hDocuments, hRenders⟩ := regenerate_rendersOnly w schemaName base
  refine ⟨fun location hChanged => ?_, fun name hDocument => ?_, fun paths hResult => ?_⟩
  · rcases hRenders location with hSame | ⟨hNot, name, hName, text, hText⟩
    · exact absurd hSame hChanged
    · exact ⟨hNot, name, text, hDocuments name hName, hText⟩
  · have hName := Workspace.isComponent_of_isEntryName hDocument.isName
    refine hRenders.entry_eq ?_ fun other hOther _ => ?_
    · rw [ArtifactPaths.parent_json base hName, hDocument.isDirectory]
    · by_cases hSame : other = name
      · rw [hSame]
        exact (ArtifactPaths.json_apart base hName).symm
      · exact ArtifactPaths.markdown_json_apart base hName (hDocuments other hOther).isName hSame
  · simpa only [isLoadable_iff] using regenerate_eq_ok hResult

section

variable {w : Workspace} {base : Path} {name : String}

theorem null_notMem_artifacts (h : w.HoldsDirectory base name) :
    '\x00' ∉ (ArtifactPaths.of base name).json.text.toList ∧
      '\x00' ∉ (ArtifactPaths.of base name).markdown.text.toList := by
  obtain ⟨location, hLocate, -⟩ := Workspace.entry_eq_ok_iff.1 h.isDirectory
  obtain ⟨hDirectory, -⟩ := Workspace.locate_eq_ok_iff.1 hLocate
  obtain ⟨-, -, -, hSlash, hNull, -⟩ := Workspace.isEntryName_iff.1 h.isName
  have hJson : '\x00' ∉ (name ++ ".json").toList := by
    rw [String.toList_append, List.mem_append]
    exact fun h => h.elim hNull (by decide)
  have hMarkdown : '\x00' ∉ (Text.upper name ++ ".md").toList := by
    rw [String.toList_append, List.mem_append]
    exact fun h => h.elim (Text.null_notMem_upper hNull) (by decide)
  rw [ArtifactPaths.json_of, ArtifactPaths.markdown_of]
  constructor
  · exact Workspace.null_notMem_append hDirectory
      (Path.isComponent_extension hSlash (by decide) (by decide)) hJson
  · have hName : Path.IsComponent (Text.upper name ++ ".md") :=
      Path.isComponent_extension (Text.slash_notMem_upper hSlash) (by decide) (by decide)
    exact Workspace.null_notMem_append hDirectory hName hMarkdown

/-- Where the figures can be recovered, only paths that are too long, a directory in the place of
the Markdown and a surrogate in the name of the schema stand in the way of regenerating one. -/
theorem canRegenerate_iff_isShort {schemaName : LooseText} (hDocument : w.HoldsDirectory base name)
    (hFigures : isLoadable w (.of base name) = true →
      ∃ figures, figuresIn w (ArtifactPaths.of base name).markdown = .ok figures) :
    CanRegenerate w schemaName (.of base name) ↔ (ArtifactPaths.of base name).json.IsShort ∧
      (isLoadable w (.of base name) = true → schemaName.IsPlain ∧
        (ArtifactPaths.of base name).markdown.IsShort ∧
          w.entry (ArtifactPaths.of base name).markdown ≠ .ok .directory) := by
  have hJson := parent_json_of_holdsDirectory hDocument
  have hMarkdown := parent_markdown_of_holdsDirectory hDocument
  obtain ⟨hJsonNull, hMarkdownNull⟩ := null_notMem_artifacts hDocument
  -- the parent is a directory, so only the length of a path decides whether it can be asked for
  have hLocate : (∃ location, w.locate (ArtifactPaths.of base name).markdown = .ok location) ↔
      (ArtifactPaths.of base name).markdown.IsShort := by
    rw [Workspace.locate_of_parent hMarkdown hMarkdownNull]
    split <;> simp [*]
  rw [CanRegenerate, Workspace.exists?, Workspace.exists?,
    Workspace.holds_eq_ok_iff hJson hJsonNull, Workspace.holds_eq_ok_iff hMarkdown hMarkdownNull,
    hLocate, and_congr_right_iff]
  intro
  constructor
  · intro hClear hLoadable
    obtain ⟨report, hLoad⟩ := isLoadable_iff.1 hLoadable
    obtain ⟨hShort, -, hPlain, -, hFree⟩ := hClear report hLoad
    exact ⟨hPlain, hShort, hFree⟩
  · intro hClear report hLoad
    have hLoadable := isLoadable_iff.2 ⟨report, hLoad⟩
    obtain ⟨hPlain, hShort, hFree⟩ := hClear hLoadable
    exact ⟨hShort, hFigures hLoadable, hPlain, hShort, hFree⟩

/-- A run over the documents in a directory ends with a result exactly if all of these can be listed
and nothing stands in the way of any. -/
theorem exists_regenerate_iff (schemaName : LooseText) (hBase : w.entry base = .ok .directory) :
    (∃ paths, (regenerate w schemaName base).result = .ok paths) ↔
      (∀ name ∈ w.children base.target, (base.append name).IsShort) ∧
        ∀ name, w.HoldsDirectory base name → CanRegenerate w schemaName (.of base name) := by
  rw [← Workspace.exists_subdirectories_iff hBase]
  have hIs : w.isDirectory? base = .ok true := Workspace.isDirectory?_eq_true_iff.2 hBase
  have hListing : (∃ found, w.subdirectories base = .ok found) ↔
      ∃ names, documentNames w base = .ok names := by
    simp [documentNames_eq_ok_iff, exists_comm]
  rw [hListing]
  cases hNames : documentNames w base with
  | error e => simp [regenerate, hIs, hNames]
  | ok names =>
    have hDocuments : ∀ name, name ∈ names ↔ w.HoldsDirectory base name :=
      fun name => mem_documentNames_iff hNames
    have hRun : regenerate w schemaName base = regenerateAll w schemaName base names := by
      simp only [regenerate, hIs, hNames]
    rw [hRun, regenerateAll_isOk_iff (nodup_documentNames hNames) fun name => (hDocuments name).1]
    simp [hDocuments]

/-- A run over directories that were listed ends with a result if all figures can be recovered and
all artifacts asked for and written. -/
theorem isOk_regenerate_of_listed {names : List String} {schemaName : LooseText}
    (hSchema : schemaName.IsPlain) (hBase : w.entry base = .ok .directory)
    (hFound : w.subdirectories base = .ok names)
    (hClear : ∀ name ∈ names,
      (∃ figures, figuresIn w (ArtifactPaths.of base name).markdown = .ok figures) ∧
        (ArtifactPaths.of base name).json.IsShort ∧ (ArtifactPaths.of base name).markdown.IsShort ∧
          w.entry (ArtifactPaths.of base name).markdown ≠ .ok .directory) :
    (regenerate w schemaName base).result.isOk = true := by
  have hListing := (Workspace.exists_subdirectories_iff hBase).1 ⟨names, hFound⟩
  have hDocuments : ∀ name, w.HoldsDirectory base name →
      CanRegenerate w schemaName (.of base name) := by
    intro name hHeld
    obtain ⟨hFigures, hJson, hMarkdown⟩ :=
      hClear name ((Workspace.mem_subdirectories_iff hFound).2 hHeld)
    exact (canRegenerate_iff_isShort hHeld fun _ => hFigures).2
      ⟨hJson, fun _ => ⟨hSchema, hMarkdown⟩⟩
  obtain ⟨paths, hResult⟩ := (exists_regenerate_iff schemaName hBase).2 ⟨hListing, hDocuments⟩
  rw [hResult]
  rfl

/-- A run over the documents in a directory whose figures can be recovered ends with a result unless
a path is too long, a directory stands in the place of a Markdown that is to be written or what is
to be written cannot be encoded, for a surrogate in the name of the schema. One that ends with a
result passes over the documents that cannot be loaded and renders all others. -/
theorem regenerate_returns_iff (schemaName : LooseText) (hBase : w.entry base = .ok .directory)
    (hFigures : ∀ name, w.HoldsDirectory base name → isLoadable w (.of base name) = true →
      ∃ figures, figuresIn w (ArtifactPaths.of base name).markdown = .ok figures) :
    ((∃ paths, (regenerate w schemaName base).result = .ok paths) ↔
      (∀ name ∈ w.children base.target, (base.append name).IsShort) ∧
        ∀ name, w.HoldsDirectory base name → (ArtifactPaths.of base name).json.IsShort ∧
          (isLoadable w (.of base name) = true → schemaName.IsPlain ∧
            (ArtifactPaths.of base name).markdown.IsShort ∧
              w.entry (ArtifactPaths.of base name).markdown ≠ .ok .directory)) ∧
    ∀ paths, (regenerate w schemaName base).result = .ok paths →
      ∀ name, w.HoldsDirectory base name →
        (isLoadable w (.of base name) = false →
          (ArtifactPaths.of base name).markdown ∉ paths ∧
            (regenerate w schemaName base).workspace.entry (ArtifactPaths.of base name).markdown =
              w.entry (ArtifactPaths.of base name).markdown) ∧
        (isLoadable w (.of base name) = true →
          (ArtifactPaths.of base name).markdown ∈ paths ∧
            ∃ text : String, IsRendering w schemaName (.of base name) text ∧
              (regenerate w schemaName base).workspace.readBytes
                (ArtifactPaths.of base name).markdown = .ok (Text.Utf8.encode text)) := by
  constructor
  · rw [exists_regenerate_iff schemaName hBase, and_congr_right_iff]
    intro
    exact forall₂_congr fun name hDocument =>
      canRegenerate_iff_isShort hDocument (hFigures name hDocument)
  · intro paths hResult name hDocument
    have hName := Workspace.isComponent_of_isEntryName hDocument.isName
    obtain ⟨names, -, hNames, rfl, hTexts⟩ := regenerate_eq_ok hResult
    constructor
    · intro hSkipped
      -- only documents with a report are written, and this one has none
      have hApart {other : String} (hOther : w.HoldsDirectory base other)
          (hLoadable : isLoadable w (.of base other) = true) :
          (ArtifactPaths.of base other).markdown.target ≠
            (ArtifactPaths.of base name).markdown.target := by
        refine ArtifactPaths.markdown_apart base hName hOther.isName ?_
        rintro rfl
        rw [hSkipped] at hLoadable
        cases hLoadable
      constructor
      · rw [List.mem_map]
        rintro ⟨other, hOther, hSame⟩
        obtain ⟨hHeld, hLoadable⟩ := (hNames other).1 hOther
        exact hApart hHeld hLoadable (congrArg Path.target hSame)
      · obtain ⟨_, hDocuments, hRenders⟩ := regenerate_rendersOnly w schemaName base
        refine hRenders.entry_eq ?_ fun other hOther => hApart (hDocuments other hOther)
        rw [ArtifactPaths.parent_markdown base hName, hDocument.isDirectory]
    · intro hLoadable
      have hMem := (hNames name).2 ⟨hDocument, hLoadable⟩
      exact ⟨List.mem_map_of_mem hMem, hTexts name hMem⟩

end

/-- A broken JSON artifact stands beside a document whose Markdown is no text. -/
def damaged : Workspace :=
  ⟨[(["out"], .directory), (["out", "a"], .directory), (["out", "a", "a.json"], .file [0x7B]),
    (["out", "b"], .directory), (["out", "b", "b.json"], .file [0x7B, 0x7D]),
    (["out", "b", "B.md"], .file [0xFF])], by decide, by decide⟩

theorem regenerate_damaged : ∃ paths,
    (regenerate damaged "default" ⟨.here, ["out"]⟩).result = .ok paths ∧
      (ArtifactPaths.of ⟨.here, ["out"]⟩ "a").markdown ∉ paths ∧
        (ArtifactPaths.of ⟨.here, ["out"]⟩ "b").markdown ∈ paths := by
  have hBase : damaged.entry ⟨.here, ["out"]⟩ = .ok .directory := by decide +kernel
  have hDocuments : ∀ name, damaged.HoldsDirectory ⟨.here, ["out"]⟩ name → name ∈ ["a", "b"] := by
    have hListed : damaged.subdirectories ⟨.here, ["out"]⟩ = .ok ["a", "b"] := by decide +kernel
    exact fun name => (Workspace.mem_subdirectories_iff hListed).2
  obtain ⟨hReturns, hEffect⟩ := regenerate_returns_iff "default" hBase fun name hDocument _ => by
    have hNoText : ∀ name ∈ ["a", "b"], figuresIn damaged
        (ArtifactPaths.of ⟨.here, ["out"]⟩ name).markdown = .ok (.zero, .zero) := by decide +kernel
    exact ⟨_, hNoText name (hDocuments name hDocument)⟩
  have hClear : ∀ name ∈ ["a", "b"], (ArtifactPaths.of ⟨.here, ["out"]⟩ name).json.IsShort ∧
      (isLoadable damaged (.of ⟨.here, ["out"]⟩ name) = true → LooseText.IsPlain "default" ∧
        (ArtifactPaths.of ⟨.here, ["out"]⟩ name).markdown.IsShort ∧
          damaged.entry (ArtifactPaths.of ⟨.here, ["out"]⟩ name).markdown ≠ .ok .directory) := by
    decide +kernel
  obtain ⟨paths, hResult⟩ := hReturns.2 ⟨by decide +kernel, fun name hDocument =>
    hClear name (hDocuments name hDocument)⟩
  refine ⟨paths, hResult, ?_, ?_⟩
  · have hDirectory : damaged.HoldsDirectory ⟨.here, ["out"]⟩ "a" := ⟨by decide, by decide +kernel⟩
    exact ((hEffect paths hResult "a" hDirectory).1 (by decide +kernel)).1
  · have hDirectory : damaged.HoldsDirectory ⟨.here, ["out"]⟩ "b" := ⟨by decide, by decide +kernel⟩
    exact ((hEffect paths hResult "b" hDirectory).2 (by decide +kernel)).1

/-- A directory stands in the place of the Markdown of the first of two documents. -/
def obstructed : Workspace :=
  ⟨[(["out"], .directory), (["out", "a"], .directory), (["out", "a", "a.json"], .file [0x7B, 0x7D]),
    (["out", "a", "A.md"], .directory), (["out", "b"], .directory),
    (["out", "b", "b.json"], .file [0x7B, 0x7D])], by decide, by decide⟩

theorem not_regenerate_obstructed :
    obstructed.entry ⟨.here, ["out"]⟩ = .ok .directory ∧
      isLoadable obstructed (.of ⟨.here, ["out"]⟩ "b") = true ∧
        (∀ paths, (regenerate obstructed "default" ⟨.here, ["out"]⟩).result ≠ .ok paths) ∧
          (regenerate obstructed "default" ⟨.here, ["out"]⟩).workspace.exists?
            (ArtifactPaths.of ⟨.here, ["out"]⟩ "b").markdown = .ok false := by
  have hIs : obstructed.isDirectory? ⟨.here, ["out"]⟩ = .ok true := by decide +kernel
  have hNames : documentNames obstructed ⟨.here, ["out"]⟩ = .ok ["a", "b"] :=
    documentNames_eq_ok_iff.2
      ⟨["a", "b"], by decide +kernel, List.mergeSort_of_pairwise (by decide)⟩
  have hRun : regenerate obstructed "default" ⟨.here, ["out"]⟩ =
      regenerateAll obstructed "default" ⟨.here, ["out"]⟩ ["a", "b"] := by
    simp only [regenerate, hIs, hNames]
  have hFailed : (regenerateAll obstructed "default" ⟨.here, ["out"]⟩ ["a", "b"]).result.isOk =
      false := by
    decide +kernel
  -- sorting does not compute in the kernel, so the run is stated over the sorted names first
  rw [hRun]
  refine ⟨by decide +kernel, by decide +kernel, fun paths hResult => ?_, by decide +kernel⟩
  rw [hResult] at hFailed
  cases hFailed

end ReportPress.Artifact
