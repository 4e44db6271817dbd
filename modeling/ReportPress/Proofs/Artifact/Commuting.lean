import ReportPress.Proofs.Artifact.Calls

/-!
Saves of different documents below one base commute. What a save that succeeds leaves at the places
of its artifacts does not hang on the workspace, it leaves directories on the whole way to them, and
the artifacts of two documents never stand at one place. Main statement: `at?_save_comm`.
-/

namespace ReportPress.Artifact

/-- The place of an artifact. -/
def IsPlace (paths : ArtifactPaths) (location : Location) : Prop :=
  location = paths.json.target ∨ location = paths.markdown.target

/-- The place of a directory on the way to the artifacts. -/
def IsOnWay (paths : ArtifactPaths) (location : Location) : Prop :=
  ∃ count, (paths.directory.front count).target = location

section

variable {w w' : Workspace} {base : Path} {report : Report} {name other : String}
  {schemaName : LooseText} {usage : TokenUsage} {cost : Cost} {location : Location}

/-- What a document holds once it is saved does not hang on what was there. -/
theorem contents_save (hSaved : (save w base report name schemaName usage cost).result.isOk = true)
    (hSaved' : (save w' base report name schemaName usage cost).result.isOk = true) :
    ∃ bytes bytes',
      contents (save w base report name schemaName usage cost).workspace (.of base name) =
          (some bytes, some bytes') ∧
        contents (save w' base report name schemaName usage cost).workspace (.of base name) =
          (some bytes, some bytes') := by
  obtain ⟨paths, hResult⟩ := Except.exists_of_isOk hSaved
  obtain ⟨rfl, text, document, hText, hDocument, hJson, hMarkdown⟩ := readBytes_save hResult
  obtain ⟨paths', hResult'⟩ := Except.exists_of_isOk hSaved'
  obtain ⟨rfl, text', document', hText', hDocument', hJson', hMarkdown'⟩ := readBytes_save hResult'
  obtain rfl := Except.ok.inj (hText.symm.trans hText')
  obtain rfl := LooseText.ofString_inj.1 (Except.ok.inj (hDocument.symm.trans hDocument'))
  refine ⟨Text.Utf8.encode text, Text.Utf8.encode document, ?_, ?_⟩
  · rw [contents, Workspace.read?, Workspace.read?, hJson, hMarkdown]
    rfl
  · rw [contents, Workspace.read?, Workspace.read?, hJson', hMarkdown']
    rfl

theorem at?_save_self (hSaved : (save w base report name schemaName usage cost).result.isOk = true)
    (hSaved' : (save w' base report name schemaName usage cost).result.isOk = true)
    (hPlace : IsPlace (.of base name) location) : ∃ bytes,
      (save w base report name schemaName usage cost).workspace.at? location = some (.file bytes) ∧
        (save w' base report name schemaName usage cost).workspace.at? location =
          some (.file bytes) := by
  obtain ⟨bytes, bytes', hRead, hRead'⟩ := contents_save hSaved hSaved'
  obtain ⟨hJson, hMarkdown⟩ := Prod.mk.inj hRead
  obtain ⟨hJson', hMarkdown'⟩ := Prod.mk.inj hRead'
  have hAt {v : Workspace} {path : Path} {found : List UInt8} (h : v.read? path = some found) :
      v.at? path.target = some (.file found) :=
    Workspace.file?_eq_some_iff.1 (Workspace.file?_of_read? h)
  rcases hPlace with hLocation | hLocation <;> rw [hLocation]
  · exact ⟨bytes, hAt hJson, hAt hJson'⟩
  · exact ⟨bytes', hAt hMarkdown, hAt hMarkdown'⟩

/-- Once a document is saved, there are directories on the whole way to it. -/
theorem at?_save_onWay (hName : IsDocumentName name)
    (hSaved : (save w base report name schemaName usage cost).result.isOk = true)
    (hOnWay : IsOnWay (.of base name) location) :
    (save w base report name schemaName usage cost).workspace.at? location =
      some .directory := by
  obtain ⟨paths, hResult⟩ := Except.exists_of_isOk hSaved
  obtain ⟨rfl, _, _, -, -, hJson, -⟩ := readBytes_save hResult
  obtain ⟨place, hLocate, -⟩ := Workspace.readBytes_eq_ok_iff.1 hJson
  obtain ⟨count, rfl⟩ := hOnWay
  rw [ArtifactPaths.of_eq base hName.1] at hLocate ⊢
  dsimp only at hLocate ⊢
  generalize base.names ++ [name] = names at hLocate ⊢
  -- the names on the way are the first names of the path to the JSON artifact
  have hTake : names.take count =
      (names ++ [name ++ ".json"]).take (min count names.length) := by
    rw [← List.take_take, List.take_left]
  rw [Path.front, hTake]
  apply Workspace.at?_front_of_locate hLocate
  rw [List.length_append, List.length_singleton]
  omega

/-- Away from its artifacts and the way to them, saving changes nothing. -/
theorem at?_save_away (hPlace : ¬ IsPlace (.of base name) location)
    (hOnWay : ¬ IsOnWay (.of base name) location) :
    (save w base report name schemaName usage cost).workspace.at? location = w.at? location := by
  obtain ⟨hJson, hMarkdown⟩ := not_or.1 hPlace
  rcases at?_save_of_ne hJson hMarkdown with hSame | ⟨-, -, hMade⟩
  · exact hSame
  · exact absurd hMade hOnWay

theorem at?_save_kept {entry : Entry} (hPlace : ¬ IsPlace (.of base name) location)
    (h : w.at? location = some entry) :
    (save w base report name schemaName usage cost).workspace.at? location = some entry := by
  obtain ⟨hJson, hMarkdown⟩ := not_or.1 hPlace
  rcases at?_save_of_ne hJson hMarkdown with hSame | ⟨hNone, -⟩
  · rw [hSame, h]
  · rw [h] at hNone
    cases hNone

theorem IsPlace.apart (hName : IsDocumentName name) (hOther : IsDocumentName other)
    (hNe : other ≠ name) (h : IsPlace (.of base name) location) :
    ¬ IsPlace (.of base other) location := by
  unfold IsPlace at h ⊢
  rintro (hJson | hMarkdown)
  · rw [hJson] at h
    exact h.elim (ArtifactPaths.target_json_ne_json base hName hOther hNe)
      (ArtifactPaths.target_json_ne_markdown base hName hOther)
  · rw [hMarkdown] at h
    exact h.elim (fun h => ArtifactPaths.target_json_ne_markdown base hOther hName h.symm)
      (ArtifactPaths.target_markdown_ne_markdown base hName hOther hNe)

end

section

variable {w : Workspace} {base : Path} {report report' : Report} {name name' : String}
  {schemaName schemaName' : LooseText} {usage usage' : TokenUsage} {cost cost' : Cost}

/-- Two saves of different documents that succeed leave the same, whichever comes first. -/
theorem at?_save_comm (hName : IsDocumentName name) (hName' : IsDocumentName name')
    (hNe : name ≠ name')
    (hFirst : (save w base report name schemaName usage cost).result.isOk = true)
    (hSecond : (save (save w base report name schemaName usage cost).workspace base report' name'
      schemaName' usage' cost').result.isOk = true)
    (hFirst' : (save w base report' name' schemaName' usage' cost').result.isOk = true)
    (hSecond' : (save (save w base report' name' schemaName' usage' cost').workspace base report
      name schemaName usage cost).result.isOk = true) (location : Location) :
    (save (save w base report name schemaName usage cost).workspace base report' name'
        schemaName' usage' cost').workspace.at? location =
      (save (save w base report' name' schemaName' usage' cost').workspace base report name
        schemaName usage cost).workspace.at? location := by
  by_cases hPlace : IsPlace (.of base name) location
  · have hApart := hPlace.apart hName hName' hNe.symm
    obtain ⟨bytes, hSaved, hSaved'⟩ := at?_save_self hFirst hSecond' hPlace
    rw [at?_save_kept hApart hSaved, hSaved']
  · by_cases hPlace' : IsPlace (.of base name') location
    · obtain ⟨bytes, hSaved, hSaved'⟩ := at?_save_self hSecond hFirst' hPlace'
      rw [hSaved, at?_save_kept hPlace hSaved']
    · by_cases hOnWay : IsOnWay (.of base name) location
      · rw [at?_save_kept hPlace' (at?_save_onWay hName hFirst hOnWay),
          at?_save_onWay hName hSecond' hOnWay]
      · by_cases hOnWay' : IsOnWay (.of base name') location
        · rw [at?_save_onWay hName' hSecond hOnWay',
            at?_save_kept hPlace (at?_save_onWay hName' hFirst' hOnWay')]
        · rw [at?_save_away hPlace' hOnWay', at?_save_away hPlace hOnWay,
            at?_save_away hPlace hOnWay, at?_save_away hPlace' hOnWay']

end

end ReportPress.Artifact
