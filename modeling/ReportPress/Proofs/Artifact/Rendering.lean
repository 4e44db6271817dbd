import ReportPress.Artifact.Regenerate
import ReportPress.Proofs.Artifact.Paths
import ReportPress.Proofs.Except
import ReportPress.Proofs.Markdown.Statistics
import ReportPress.Proofs.Report.Shape
import ReportPress.Proofs.Workspace.Listing

/-!
What regeneration does to a workspace. A document is rendered from its own two artifacts, and
writing its Markdown leaves those of all other documents as they were, so a run over many documents
is told by the workspace as it was before the run. A rendering that cannot be encoded, for a
surrogate in the name of the schema, empties the Markdown and ends the run.
-/

namespace ReportPress

theorem Outcome.result_map_eq_ok_iff {α β : Type} {f : α → β} {outcome : Outcome α} {b : β} :
    (outcome.map f).result = .ok b ↔ ∃ a, outcome.result = .ok a ∧ f a = b :=
  Except.map_eq_ok_iff

namespace Artifact

open Statistics

/-- The figures that the Markdown at a path gives: those in its text, zero where no text can be
read. -/
def figuresIn (w : Workspace) (markdown : Path) : Except FigureError (TokenUsage × Binary64) :=
  match w.readText markdown with
  | .error _ => .ok (.zero, .zero)
  | .ok text => recover text

/-- The text is the Markdown of a document: the report of its JSON artifact, with the figures that
its Markdown artifact gives. -/
def IsRendering (w : Workspace) (schemaName : LooseText) (paths : ArtifactPaths)
    (text : LooseText) : Prop :=
  ∃ report usage cost, load w paths.json = .ok report ∧
    figuresIn w paths.markdown = .ok (usage, cost) ∧
      Markdown.document report schemaName usage (.exact cost) = .ok text

/-- The JSON artifact of a document can be loaded. -/
def isLoadable (w : Workspace) (paths : ArtifactPaths) : Bool := (load w paths.json).isOk

/-- The artifacts of a document can be asked for, and if there is a report to render, the figures
can be recovered, the rendering can be encoded and a file can be written. -/
def CanRegenerate (w : Workspace) (schemaName : LooseText) (paths : ArtifactPaths) : Prop :=
  (∃ answer, w.exists? paths.json = .ok answer) ∧ ∀ report, load w paths.json = .ok report →
    (∃ answer, w.exists? paths.markdown = .ok answer) ∧
      (∃ figures, figuresIn w paths.markdown = .ok figures) ∧ schemaName.IsPlain ∧
        (∃ location, w.locate paths.markdown = .ok location) ∧
          w.entry paths.markdown ≠ .ok .directory

/-- What can come of regenerating one document. -/
inductive Regenerates (w : Workspace) (schemaName : LooseText) (paths : ArtifactPaths) :
    Outcome (Option Path) → Prop
  | passedOver {notices : List Notice} {reason : Failure}
      (hClear : CanRegenerate w schemaName paths) (hLoad : load w paths.json = .error reason) :
      Regenerates w schemaName paths ⟨w, notices, .ok none⟩
  | failed {notices : List Notice} {failure : Failure}
      (hBlocked : ¬ CanRegenerate w schemaName paths) :
      Regenerates w schemaName paths ⟨w, notices, .error failure⟩
  | emptied {notices : List Notice} {failure : Failure} {text : LooseText} {w' : Workspace}
      (hBlocked : ¬ CanRegenerate w schemaName paths)
      (hRendering : IsRendering w schemaName paths text) (hNotPlain : ¬ text.IsPlain)
      (hWritten : w.writeBytes paths.markdown [] = .ok w') :
      Regenerates w schemaName paths ⟨w', notices, .error failure⟩
  | written {notices : List Notice} {text : String} {w' : Workspace}
      (hClear : CanRegenerate w schemaName paths) (hRendering : IsRendering w schemaName paths text)
      (hWritten : w.writeBytes paths.markdown (Text.Utf8.encode text) = .ok w') :
      Regenerates w schemaName paths ⟨w', notices, .ok (some paths.markdown)⟩

section

variable {w w' : Workspace} {schemaName : LooseText} {paths : ArtifactPaths}

theorem isLoadable_iff :
    isLoadable w paths = true ↔ ∃ report, load w paths.json = .ok report := by
  rw [isLoadable]
  cases load w paths.json <;> simp [Except.isOk, Except.toBool]

theorem IsRendering.isLoadable {text : LooseText} (h : IsRendering w schemaName paths text) :
    isLoadable w paths = true := by
  obtain ⟨report, _, _, hLoad, -⟩ := h
  exact isLoadable_iff.2 ⟨report, hLoad⟩

theorem IsRendering.isPlain_iff {text : LooseText} (h : IsRendering w schemaName paths text) :
    text.IsPlain ↔ schemaName.IsPlain := by
  obtain ⟨_, _, _, -, -, hDocument⟩ := h
  exact isPlain_document_iff hDocument

/-- What was loaded was read from text, so its whole numbers can be written. -/
theorem isShowable_of_load {path : Path} {report : Report} (h : load w path = .ok report) :
    report.IsShowable := by
  rw [load] at h
  split at h
  · cases h
  · obtain ⟨value, hRead, -, hCheck⟩ :=
      Report.exists_read_of_ofText (Except.mapError_eq_ok_iff.1 h)
    exact Report.isShowable_of_isDenoted ⟨_, _, hRead⟩ hCheck

theorem readText_of_not_exists {path : Path} (h : w.exists? path = .ok false) :
    ∃ e, w.readText path = .error e := by
  rw [Workspace.exists?, Workspace.holds] at h
  rw [Workspace.readText, Workspace.readBytes]
  cases hEntry : w.entry path with
  | error obstacle => exact ⟨_, rfl⟩
  | ok entry =>
    rw [hEntry] at h
    cases h

theorem isWritable_of_figuresIn {markdown : Path} {usage : TokenUsage} {cost : Binary64}
    (h : figuresIn w markdown = .ok (usage, cost)) : IsWritable usage := by
  rw [figuresIn] at h
  split at h
  · obtain ⟨rfl, -⟩ := Prod.mk.inj (Except.ok.inj h)
    exact isWritable_zero
  · exact isWritable_of_recover h

/-- The figures are those of the Markdown that can be asked for. -/
theorem previousFigures_eq {markdown : Path} {answer : Bool}
    (h : w.exists? markdown = .ok answer) :
    (previousFigures w markdown).2 = (figuresIn w markdown).mapError .figure := by
  rw [previousFigures, figuresIn, h]
  cases answer with
  | false =>
    obtain ⟨e, hRead⟩ := readText_of_not_exists h
    rw [hRead]
    rfl
  | true => cases w.readText markdown <;> rfl

/-- A report that was loaded is rendered over the Markdown that is there, unless something stands in
the way. -/
theorem regenerates_rewriteMarkdown {report : Report} {answer : Bool}
    (hAsked : w.exists? paths.json = .ok answer) (hLoad : load w paths.json = .ok report) :
    Regenerates w schemaName paths (rewriteMarkdown w schemaName paths.markdown report) := by
  -- asking for the Markdown, reading its figures and writing can each fail, and nothing else can
  rw [rewriteMarkdown]
  cases hExists : w.exists? paths.markdown with
  | error e =>
    have hFigures : previousFigures w paths.markdown = ([], .error (.file e)) := by
      rw [previousFigures, hExists]
    rw [hFigures]
    refine .failed fun hClear => ?_
    obtain ⟨⟨_, hAnswer⟩, -⟩ := hClear.2 report hLoad
    exact absurd (hExists.symm.trans hAnswer) (by simp)
  | ok answer =>
    have hFigures := previousFigures_eq hExists
    generalize previousFigures w paths.markdown = found at hFigures ⊢
    obtain ⟨notices, result⟩ := found
    dsimp only at hFigures
    subst hFigures
    cases hFound : figuresIn w paths.markdown with
    | error e =>
      refine .failed fun hClear => ?_
      obtain ⟨-, ⟨_, hSome⟩, -⟩ := hClear.2 report hLoad
      exact absurd (hFound.symm.trans hSome) (by simp)
    | ok figures =>
      obtain ⟨usage, cost⟩ := figures
      obtain ⟨document, hDocument⟩ := exists_document schemaName (isWritable_of_figuresIn hFound)
        (costText_exact cost) (isShowable_of_load hLoad)
      have hRendering : IsRendering w schemaName paths document :=
        ⟨report, usage, cost, hLoad, hFound, hDocument⟩
      simp only [Except.mapError, hDocument]
      have hWrite := Workspace.writesText_writeText w paths.markdown document
      generalize w.writeText paths.markdown document = outcome at hWrite ⊢
      cases hWrite with
      | @refused e hRefused =>
        refine .failed fun hClear => ?_
        obtain ⟨-, -, -, hFree⟩ := hClear.2 report hLoad
        obtain ⟨_, hSome⟩ := Workspace.exists_writeBytes_iff.2 hFree
        exact absurd (hRefused.symm.trans hSome) (by simp)
      | emptied hNotPlain hWritten =>
        refine .emptied (fun hClear => hNotPlain ?_) hRendering hNotPlain hWritten
        obtain ⟨-, -, hPlain, -⟩ := hClear.2 report hLoad
        exact hRendering.isPlain_iff.2 hPlain
      | @written w' text hPlain hWritten =>
        subst hPlain
        have hName := hRendering.isPlain_iff.1 (LooseText.isPlain_ofString text)
        refine .written ⟨⟨_, hAsked⟩, fun other hOther =>
          ⟨⟨_, hExists⟩, ⟨_, hFound⟩, hName, ?_⟩⟩ hRendering hWritten
        exact Workspace.exists_writeBytes_iff.1 ⟨w', hWritten⟩

theorem regenerates_regenerateOne (w : Workspace) (schemaName : LooseText)
    (paths : ArtifactPaths) :
    Regenerates w schemaName paths (regenerateOne w schemaName paths) := by
  have hPassed {answer : Bool} {reason : Failure} (hAsked : w.exists? paths.json = .ok answer)
      (hLoad : load w paths.json = .error reason) : CanRegenerate w schemaName paths :=
    ⟨⟨answer, hAsked⟩, fun report hSome => absurd (hLoad.symm.trans hSome) (by simp)⟩
  rw [regenerateOne]
  cases hAsked : w.exists? paths.json with
  | error e =>
    refine .failed ?_
    rintro ⟨⟨answer, hAnswer⟩, -⟩
    exact absurd (hAsked.symm.trans hAnswer) (by simp)
  | ok answer =>
    cases answer with
    | false =>
      obtain ⟨e, hRead⟩ := readText_of_not_exists hAsked
      have hLoad : load w paths.json = .error (.ofRead e) := by rw [load, hRead]
      exact .passedOver (hPassed hAsked hLoad) hLoad
    | true =>
      cases hLoad : load w paths.json with
      | error reason => exact .passedOver (hPassed hAsked hLoad) hLoad
      | ok report => exact regenerates_rewriteMarkdown hAsked hLoad

end

/-- Both workspaces hold the same at the places of the artifacts. -/
structure SameArtifacts (w w' : Workspace) (paths : ArtifactPaths) : Prop where
  json : w'.entry paths.json = w.entry paths.json
  markdown : w'.entry paths.markdown = w.entry paths.markdown
  locate : w'.locate paths.markdown = w.locate paths.markdown

namespace SameArtifacts

variable {w w' : Workspace} {paths : ArtifactPaths} (h : SameArtifacts w w' paths)

include h

theorem load_eq : load w' paths.json = load w paths.json := by
  simp only [load, Workspace.readText, Workspace.readBytes, h.json]

theorem figuresIn_eq : figuresIn w' paths.markdown = figuresIn w paths.markdown := by
  simp only [figuresIn, Workspace.readText, Workspace.readBytes, h.markdown]

theorem isRendering_iff {schemaName text : LooseText} :
    IsRendering w' schemaName paths text ↔ IsRendering w schemaName paths text := by
  simp only [IsRendering, h.load_eq, h.figuresIn_eq]

theorem isLoadable_eq : isLoadable w' paths = isLoadable w paths := by
  rw [isLoadable, isLoadable, h.load_eq]

theorem canRegenerate_iff {schemaName : LooseText} :
    CanRegenerate w' schemaName paths ↔ CanRegenerate w schemaName paths := by
  simp only [CanRegenerate, Workspace.exists?, Workspace.holds, h.load_eq, h.figuresIn_eq, h.json,
    h.markdown, h.locate]

end SameArtifacts

section

variable {w w' : Workspace} {schemaName : LooseText} {base : Path} {name : String}
  {bytes : List UInt8}

theorem parent_json_of_holdsDirectory (h : w.HoldsDirectory base name) :
    w.entry (ArtifactPaths.of base name).json.parent = .ok .directory := by
  rw [ArtifactPaths.parent_json base (Workspace.isComponent_of_isEntryName h.isName), h.isDirectory]

theorem parent_markdown_of_holdsDirectory (h : w.HoldsDirectory base name) :
    w.entry (ArtifactPaths.of base name).markdown.parent = .ok .directory := by
  rw [ArtifactPaths.parent_markdown base (Workspace.isComponent_of_isEntryName h.isName),
    h.isDirectory]

theorem sameArtifacts_of_writeBytes {other : String} (hDocument : w.HoldsDirectory base name)
    (hOther : Workspace.isEntryName other = true) (hNe : other ≠ name)
    (hWritten : w.writeBytes (ArtifactPaths.of base other).markdown bytes = .ok w') :
    SameArtifacts w w' (.of base name) := by
  have hName := Workspace.isComponent_of_isEntryName hDocument.isName
  have hMarkdown := parent_markdown_of_holdsDirectory hDocument
  constructor
  · exact Workspace.entry_of_writeBytes_of_ne hWritten (parent_json_of_holdsDirectory hDocument)
      (ArtifactPaths.markdown_json_apart base hName hOther hNe)
  · exact Workspace.entry_of_writeBytes_of_ne hWritten hMarkdown
      (ArtifactPaths.markdown_apart base hName hOther hNe)
  · exact Workspace.locate_eq_of_keepsDirectories
      (Workspace.keepsDirectories_of_writeBytes hWritten) hMarkdown

theorem holdsDirectory_of_writeBytes {path : Path}
    (hWritten : w.writeBytes path bytes = .ok w') (h : w.HoldsDirectory base name) :
    w'.HoldsDirectory base name :=
  ⟨h.isName, Workspace.entry_directory_of_keepsDirectories
    (Workspace.keepsDirectories_of_writeBytes hWritten) h.isDirectory⟩

theorem documents_of_writeBytes {rest : List String}
    (hOthers : ∀ other ∈ rest, w.HoldsDirectory base other) (hNew : name ∉ rest)
    (hName : Workspace.isEntryName name = true)
    (hWritten : w.writeBytes (ArtifactPaths.of base name).markdown bytes = .ok w') :
    ∀ other ∈ rest, w'.HoldsDirectory base other ∧ SameArtifacts w w' (.of base other) := by
  intro other hOther
  refine ⟨holdsDirectory_of_writeBytes hWritten (hOthers other hOther), ?_⟩
  exact sameArtifacts_of_writeBytes (hOthers other hOther) hName (fun hEq => hNew (hEq ▸ hOther))
    hWritten

/-- Apart from Markdown artifacts of the documents, which hold renderings of these, the second
workspace is as the first. -/
def RendersOnly (w w' : Workspace) (schemaName : LooseText) (base : Path) (names : List String) :
    Prop :=
  ∀ location, w'.at? location = w.at? location ∨
    w.at? location ≠ some .directory ∧ ∃ name ∈ names, ∃ text,
      IsRendering w schemaName (.of base name) text ∧
        w.locate (ArtifactPaths.of base name).markdown = .ok location ∧
          w'.at? location = some (.file text.written)

theorem RendersOnly.keepsDirectories {names : List String}
    (h : RendersOnly w w' schemaName base names) : Workspace.KeepsDirectories w w' := by
  intro location hAt
  rcases h location with hSame | ⟨hNot, -⟩
  · rw [hSame, hAt]
  · exact absurd hAt hNot

/-- An entry of a directory that is the Markdown of no document with a report stays as it is. -/
theorem RendersOnly.entry_eq {names : List String} {path : Path}
    (h : RendersOnly w w' schemaName base names) (hParent : w.entry path.parent = .ok .directory)
    (hApart : ∀ name ∈ names, isLoadable w (.of base name) = true →
      (ArtifactPaths.of base name).markdown.target ≠ path.target) :
    w'.entry path = w.entry path := by
  rw [Workspace.entry, Workspace.entry,
    Workspace.locate_eq_of_keepsDirectories h.keepsDirectories hParent]
  cases hLocate : w.locate path with
  | error e => rfl
  | ok location =>
    rcases h location with hSame | ⟨-, name, hName, text, hRendering, hPlace, -⟩
    · simp only [hSame]
    · refine absurd ?_ (hApart name hName hRendering.isLoadable)
      rw [Workspace.target_of_locate hPlace, Workspace.target_of_locate hLocate]

theorem rendersOnly_of_writeBytes {text : LooseText}
    (hRendering : IsRendering w schemaName (.of base name) text)
    (hWritten : w.writeBytes (ArtifactPaths.of base name).markdown text.written = .ok w') :
    RendersOnly w w' schemaName base [name] := by
  obtain ⟨place, hPlace, hAt, rfl⟩ := Workspace.writeBytes_eq_ok_iff.1 hWritten
  intro location
  by_cases hSame : location = place
  · subst hSame
    refine .inr ⟨hAt, name, List.mem_singleton_self _, text, hRendering, hPlace, ?_⟩
    exact Workspace.at?_put_self w _ (ArtifactPaths.locate_markdown hPlace).1
  · exact .inl (Workspace.at?_put_of_ne w _ hSame)

/-- What a run over the other documents makes of the workspace after the first one. -/
theorem RendersOnly.trans {w'' : Workspace} {rest : List String}
    (hFirst : RendersOnly w w' schemaName base [name])
    (hRest : RendersOnly w' w'' schemaName base rest)
    (hSame : ∀ other ∈ rest, SameArtifacts w w' (.of base other)) :
    RendersOnly w w'' schemaName base (name :: rest) := by
  intro location
  rcases hRest location with hKept | ⟨hNot, other, hOther, text, hRendering, hPlace, hFile⟩
  · rw [hKept]
    refine (hFirst location).imp id ?_
    rintro ⟨hNot, found, hFound, hText⟩
    rw [List.mem_singleton.1 hFound] at hText
    exact ⟨hNot, name, List.mem_cons_self, hText⟩
  · refine .inr ⟨fun hAt => hNot (hFirst.keepsDirectories _ hAt), other,
      List.mem_cons_of_mem _ hOther, text, ?_, ?_, hFile⟩
    · exact (hSame other hOther).isRendering_iff.1 hRendering
    · rw [← (hSame other hOther).locate, hPlace]

theorem RendersOnly.mono {names others : List String} (h : RendersOnly w w' schemaName base names)
    (hSub : names ⊆ others) : RendersOnly w w' schemaName base others := by
  intro location
  refine (h location).imp id ?_
  rintro ⟨hNot, name, hName, hText⟩
  exact ⟨hNot, name, hSub hName, hText⟩

end

section

variable {w : Workspace} {schemaName : LooseText} {base : Path} {names : List String}

/-- A run over documents writes nothing but renderings of them, whether or not it ends on the
way. -/
theorem rendersOnly_regenerateAll (hNames : names.Nodup)
    (hDocuments : ∀ name ∈ names, w.HoldsDirectory base name) :
    RendersOnly w (regenerateAll w schemaName base names).workspace schemaName base names := by
  -- the others are regenerated in the workspace that the first leaves, which has their artifacts as
  -- they were, so renderings there are renderings here
  induction names generalizing w with
  | nil => exact fun _ => .inl rfl
  | cons name rest ih =>
    obtain ⟨hNew, hRest⟩ := List.nodup_cons.1 hNames
    obtain ⟨hDocument, hOthers⟩ := List.forall_mem_cons.1 hDocuments
    have hStep := regenerates_regenerateOne w schemaName (.of base name)
    rw [regenerateAll, Outcome.bind]
    generalize regenerateOne w schemaName (.of base name) = first at hStep ⊢
    cases hStep with
    | passedOver => exact (ih hRest hOthers).mono (List.subset_cons_self _ _)
    | failed => exact fun _ => .inl rfl
    | emptied _ hRendering hNotPlain hWritten =>
      rw [← LooseText.written_of_not_isPlain hNotPlain] at hWritten
      exact (rendersOnly_of_writeBytes hRendering hWritten).mono
        (List.cons_subset_cons _ (List.nil_subset _))
    | written _ hRendering hWritten =>
      rw [← LooseText.written_ofString] at hWritten
      have hAfter := documents_of_writeBytes hOthers hNew hDocument.isName hWritten
      exact (rendersOnly_of_writeBytes hRendering hWritten).trans
        (ih hRest fun other hOther => (hAfter other hOther).1) fun other hOther =>
          (hAfter other hOther).2

/-- A run over the other documents leaves the Markdown that was just written. -/
theorem readBytes_regenerateAll_of_writeBytes {name : String} {bytes : List UInt8} {w' : Workspace}
    {rest : List String} (hNames : (name :: rest).Nodup)
    (hDocuments : ∀ other ∈ name :: rest, w.HoldsDirectory base other) (schemaName : LooseText)
    (hWritten : w.writeBytes (ArtifactPaths.of base name).markdown bytes = .ok w') :
    (regenerateAll w' schemaName base rest).workspace.readBytes
      (ArtifactPaths.of base name).markdown = .ok bytes := by
  obtain ⟨hNew, hRest⟩ := List.nodup_cons.1 hNames
  obtain ⟨hDocument, hOthers⟩ := List.forall_mem_cons.1 hDocuments
  have hName := Workspace.isComponent_of_isEntryName hDocument.isName
  have hAfter := fun other hOther => holdsDirectory_of_writeBytes hWritten (hOthers other hOther)
  have hBytes := Workspace.readBytes_of_writeBytes hWritten fun _ hLocate =>
    (ArtifactPaths.locate_markdown hLocate).1
  have hKept : (regenerateAll w' schemaName base rest).workspace.entry
      (ArtifactPaths.of base name).markdown = w'.entry (ArtifactPaths.of base name).markdown := by
    refine (rendersOnly_regenerateAll hRest hAfter).entry_eq
      (parent_markdown_of_holdsDirectory (holdsDirectory_of_writeBytes hWritten hDocument))
      fun other hOther _ => ?_
    exact ArtifactPaths.markdown_apart base hName (hOthers other hOther).isName
      fun hEq => hNew (hEq ▸ hOther)
  rw [Workspace.readBytes, hKept, ← Workspace.readBytes, hBytes]

/-- A run over documents ends with a result exactly if nothing stands in the way of any of them. -/
theorem regenerateAll_isOk_iff (hNames : names.Nodup)
    (hDocuments : ∀ name ∈ names, w.HoldsDirectory base name) :
    (∃ paths, (regenerateAll w schemaName base names).result = .ok paths) ↔
      ∀ name ∈ names, CanRegenerate w schemaName (.of base name) := by
  induction names generalizing w with
  | nil => simp [regenerateAll]
  | cons name rest ih =>
    obtain ⟨hNew, hRest⟩ := List.nodup_cons.1 hNames
    obtain ⟨hDocument, hOthers⟩ := List.forall_mem_cons.1 hDocuments
    have hStep := regenerates_regenerateOne w schemaName (.of base name)
    rw [regenerateAll, Outcome.bind, List.forall_mem_cons]
    generalize regenerateOne w schemaName (.of base name) = first at hStep ⊢
    cases hStep with
    | passedOver hClear =>
      rw [and_iff_right hClear, ← ih hRest hOthers]
      simp [Outcome.result_map_eq_ok_iff]
    | failed hBlocked => simp [hBlocked]
    | emptied hBlocked => simp [hBlocked]
    | @written _ _ w' hClear _ hWritten =>
      have hAfter := documents_of_writeBytes hOthers hNew hDocument.isName hWritten
      have hSame : (∀ other ∈ rest, CanRegenerate w' schemaName (.of base other)) ↔
          ∀ other ∈ rest, CanRegenerate w schemaName (.of base other) :=
        forall₂_congr fun other hOther => (hAfter other hOther).2.canRegenerate_iff
      rw [and_iff_right hClear, ← hSame, ← ih hRest fun other hOther => (hAfter other hOther).1]
      simp [Outcome.result_map_eq_ok_iff]

/-- A run that ends with a result tells the Markdown of the documents that can be loaded, and leaves
the rendering of each in it. -/
theorem regenerateAll_eq_ok {found : List Path} (hNames : names.Nodup)
    (hDocuments : ∀ name ∈ names, w.HoldsDirectory base name)
    (h : (regenerateAll w schemaName base names).result = .ok found) :
    found = (names.filter fun name => isLoadable w (.of base name)).map
        (fun name => (ArtifactPaths.of base name).markdown) ∧
      ∀ name ∈ names, isLoadable w (.of base name) = true → ∃ text : String,
        IsRendering w schemaName (.of base name) text ∧
          (regenerateAll w schemaName base names).workspace.readBytes
            (ArtifactPaths.of base name).markdown = .ok (Text.Utf8.encode text) := by
  induction names generalizing w found with
  | nil => exact ⟨(Except.ok.inj h).symm, by simp⟩
  | cons name rest ih =>
    obtain ⟨hNew, hRest⟩ := List.nodup_cons.1 hNames
    obtain ⟨hDocument, hOthers⟩ := List.forall_mem_cons.1 hDocuments
    have hStep := regenerates_regenerateOne w schemaName (.of base name)
    rw [regenerateAll, Outcome.bind] at h ⊢
    generalize regenerateOne w schemaName (.of base name) = first at hStep h ⊢
    cases hStep with
    | @passedOver _ reason _ hLoad =>
      have hSkipped : isLoadable w (.of base name) = false := by
        rw [isLoadable, hLoad]
        rfl
      obtain ⟨others, hResult, rfl⟩ := Outcome.result_map_eq_ok_iff.1 h
      obtain ⟨rfl, hTexts⟩ := ih hRest hOthers hResult
      refine ⟨by simp [hSkipped], List.forall_mem_cons.2 ⟨fun hLoadable => ?_, hTexts⟩⟩
      rw [hSkipped] at hLoadable
      cases hLoadable
    | failed => cases h
    | emptied => cases h
    | @written _ text w' _ hRendering hWritten =>
      have hAfter := documents_of_writeBytes hOthers hNew hDocument.isName hWritten
      have hDocumentsAfter := fun other hOther => (hAfter other hOther).1
      obtain ⟨others, hResult, rfl⟩ := Outcome.result_map_eq_ok_iff.1 h
      obtain ⟨rfl, hTexts⟩ := ih hRest hDocumentsAfter hResult
      have hFilter : (rest.filter fun other => isLoadable w' (.of base other)) =
          rest.filter fun other => isLoadable w (.of base other) :=
        List.filter_congr fun other hOther => (hAfter other hOther).2.isLoadable_eq
      have hRead := readBytes_regenerateAll_of_writeBytes hNames hDocuments schemaName hWritten
      refine ⟨by simp [hRendering.isLoadable, hFilter],
        List.forall_mem_cons.2 ⟨fun _ => ⟨text, hRendering, hRead⟩, ?_⟩⟩
      intro other hOther hLoadable
      rw [← (hAfter other hOther).2.isLoadable_eq] at hLoadable
      obtain ⟨text, hText, hRead⟩ := hTexts other hOther hLoadable
      exact ⟨text, (hAfter other hOther).2.isRendering_iff.1 hText, hRead⟩

end

end Artifact

end ReportPress
