import ReportPress.Proofs.Artifact.Rendering
import ReportPress.Proofs.Workspace.Growth

/-!
What a document is rendered from. The report that is loaded and the figures that are recovered hang
on the bytes that the paths of its two artifacts read, and on nothing else in the workspace.
-/

namespace ReportPress.Artifact

/-- What the paths of the two artifacts read. -/
def contents (w : Workspace) (paths : ArtifactPaths) : Option (List UInt8) × Option (List UInt8) :=
  (w.read? paths.json, w.read? paths.markdown)

section

variable {w w' : Workspace} {path : Path} {paths : ArtifactPaths} {report : Report}
  {schemaName text : LooseText}

theorem exists_read?_of_load (h : load w path = .ok report) :
    ∃ bytes, w.read? path = some bytes := by
  simp only [load, Workspace.readText] at h
  cases hBytes : w.readBytes path with
  | error e =>
    rw [hBytes] at h
    cases h
  | ok bytes =>
    refine ⟨bytes, ?_⟩
    rw [Workspace.read?, hBytes]
    rfl

theorem exists?_of_load (h : load w path = .ok report) : w.exists? path = .ok true := by
  obtain ⟨bytes, hRead⟩ := exists_read?_of_load h
  exact Workspace.exists?_of_readBytes
    (Workspace.readBytes_eq_ok_iff.2 (Workspace.read?_eq_some_iff.1 hRead))

/-- What is loaded hangs on what the path of the JSON artifact reads. -/
theorem load_congr (h : w.read? path = w'.read? path) (hLoad : load w path = .ok report) :
    load w' path = .ok report := by
  obtain ⟨bytes, hRead⟩ := exists_read?_of_load hLoad
  have hRead' := h.symm.trans hRead
  rw [Workspace.read?_eq_some_iff, ← Workspace.readBytes_eq_ok_iff] at hRead hRead'
  simp only [load, Workspace.readText, hRead, hRead'] at hLoad ⊢
  exact hLoad

theorem isLoadable_congr (h : w.read? paths.json = w'.read? paths.json) :
    isLoadable w paths = isLoadable w' paths := by
  rw [Bool.eq_iff_iff, isLoadable_iff, isLoadable_iff]
  exact exists_congr fun report => ⟨load_congr h, load_congr h.symm⟩

/-- While a workspace grows, a JSON artifact that stays as it is loads the same report. -/
theorem load_of_grows (hGrows : Workspace.Grows w w')
    (hSame : w'.file? path.target = w.file? path.target) (h : load w path = .ok report) :
    load w' path = .ok report := by
  obtain ⟨bytes, hRead⟩ := exists_read?_of_load h
  exact load_congr ((Workspace.reaches_of_read? hRead).read?_eq hGrows hSame).symm h

theorem figuresIn_congr (h : w.read? path = w'.read? path) :
    figuresIn w path = figuresIn w' path := by
  unfold Workspace.read? at h
  unfold figuresIn Workspace.readText
  cases hBytes : w.readBytes path with
  | error e =>
    cases hBytes' : w'.readBytes path with
    | error e' => rfl
    | ok bytes => simp [hBytes, hBytes', Except.toOption] at h
  | ok bytes =>
    cases hBytes' : w'.readBytes path with
    | error e' => simp [hBytes, hBytes', Except.toOption] at h
    | ok bytes' =>
      simp only [hBytes, hBytes', Except.toOption, Option.some.injEq] at h
      rw [h]

theorem isRendering_congr (h : contents w paths = contents w' paths)
    (hRendering : IsRendering w schemaName paths text) :
    IsRendering w' schemaName paths text := by
  obtain ⟨hJson, hMarkdown⟩ := Prod.mk.inj h
  obtain ⟨report, usage, cost, hLoad, hFigures, hDocument⟩ := hRendering
  rw [figuresIn_congr hMarkdown] at hFigures
  exact ⟨report, usage, cost, load_congr hJson hLoad, hFigures, hDocument⟩

theorem IsRendering.unique {text' : LooseText} (h : IsRendering w schemaName paths text)
    (h' : IsRendering w schemaName paths text') : text = text' := by
  obtain ⟨report, usage, cost, hLoad, hFigures, hDocument⟩ := h
  obtain ⟨report', usage', cost', hLoad', hFigures', hDocument'⟩ := h'
  obtain rfl := Except.ok.inj (hLoad.symm.trans hLoad')
  obtain ⟨rfl, rfl⟩ := Prod.mk.inj (Except.ok.inj (hFigures.symm.trans hFigures'))
  exact Except.ok.inj (hDocument.symm.trans hDocument')

end

end ReportPress.Artifact
