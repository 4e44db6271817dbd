import ReportPress.Proofs.Artifact.Commuting
import ReportPress.Proofs.Artifact.Runs

/-!
Documents below one base do not touch each other. What the artifacts of a document hold after calls
that all succeed is what its own saves and the regenerations alone make of them, as long as no
directory is missing on the way to what stands there at the start: a base with `..` can lead through
a directory that only the save of another document makes. Saves of different documents commute, and
a regeneration makes of a document what its own artifacts tell. Main statement:
`contents_independent`.
-/

namespace ReportPress

namespace Artifact

/-- No directory is missing on the way to an artifact that stands at its place. -/
def IsReached (w : Workspace) (paths : ArtifactPaths) : Prop :=
  w.Reaches paths.json ∧ w.Reaches paths.markdown

/-- All calls, one after the other, succeed. -/
def AllReturn (base : Path) : Workspace → List Call → Prop
  | _, [] => True
  | w, call :: rest => (call.outcome base w).result.isOk = true ∧
    AllReturn base (call.outcome base w).workspace rest

theorem allReturn_nil (base : Path) (w : Workspace) : AllReturn base w [] := trivial

theorem allReturn_cons {base : Path} {w : Workspace} {call : Call} {rest : List Call} :
    AllReturn base w (call :: rest) ↔ (call.outcome base w).result.isOk = true ∧
      AllReturn base (call.outcome base w).workspace rest := Iff.rfl

/-- The call saves the document, or regenerates all. -/
def Call.concerns (name : String) : Call → Bool
  | .save _ other _ _ _ => other == name
  | .regenerate _ => true

/-- Both workspaces reach the artifacts and hold the same in them. -/
structure Agree (w w' : Workspace) (paths : ArtifactPaths) : Prop where
  left : IsReached w paths
  right : IsReached w' paths
  contents_eq : contents w paths = contents w' paths

section

variable {w w' : Workspace} {base : Path} {report : Report} {name other : String}
  {schemaName : LooseText} {usage : TokenUsage} {cost : Cost} {paths : ArtifactPaths}

theorem agree_of_grows (hReached : IsReached w paths) (hGrows : Workspace.Grows w w')
    (hJson : w'.file? paths.json.target = w.file? paths.json.target)
    (hMarkdown : w'.file? paths.markdown.target = w.file? paths.markdown.target) :
    Agree w w' paths := by
  obtain ⟨hReachesJson, hReachesMarkdown⟩ := hReached
  refine ⟨⟨hReachesJson, hReachesMarkdown⟩, ⟨hReachesJson.of_grows hGrows hJson,
    hReachesMarkdown.of_grows hGrows hMarkdown⟩, ?_⟩
  rw [contents, contents, hReachesJson.read?_eq hGrows hJson,
    hReachesMarkdown.read?_eq hGrows hMarkdown]

theorem Agree.symm (h : Agree w w' paths) : Agree w' w paths :=
  ⟨h.right, h.left, h.contents_eq.symm⟩

theorem Agree.trans {w'' : Workspace} (h : Agree w w' paths) (h' : Agree w' w'' paths) :
    Agree w w'' paths :=
  ⟨h.left, h'.right, h.contents_eq.trans h'.contents_eq⟩

theorem agree_save_of_ne (hName : IsDocumentName name) (hOther : IsDocumentName other)
    (hNe : other ≠ name) (hReached : IsReached w (.of base name)) :
    Agree w (save w base report other schemaName usage cost).workspace (.of base name) := by
  apply agree_of_grows hReached grows_save
  · exact file?_save_of_ne (ArtifactPaths.target_json_ne_json base hOther hName hNe.symm)
      (ArtifactPaths.target_json_ne_markdown base hOther hName)
  · exact file?_save_of_ne (ArtifactPaths.target_json_ne_markdown base hName hOther).symm
      (ArtifactPaths.target_markdown_ne_markdown base hOther hName hNe.symm)

theorem agree_save (hSaved : (save w base report name schemaName usage cost).result.isOk = true)
    (hSaved' : (save w' base report name schemaName usage cost).result.isOk = true) :
    Agree (save w base report name schemaName usage cost).workspace
      (save w' base report name schemaName usage cost).workspace (.of base name) := by
  obtain ⟨bytes, bytes', hRead, hRead'⟩ := contents_save hSaved hSaved'
  obtain ⟨hJson, hMarkdown⟩ := Prod.mk.inj hRead
  obtain ⟨hJson', hMarkdown'⟩ := Prod.mk.inj hRead'
  exact ⟨⟨Workspace.reaches_of_read? hJson, Workspace.reaches_of_read? hMarkdown⟩,
    ⟨Workspace.reaches_of_read? hJson', Workspace.reaches_of_read? hMarkdown'⟩,
    hRead.trans hRead'.symm⟩

theorem holdsDirectory_of_read? {bytes : List UInt8} (hName : IsDocumentName name)
    (h : w.read? (ArtifactPaths.of base name).json = some bytes) : w.HoldsDirectory base name := by
  obtain ⟨location, hLocate, -⟩ := Workspace.read?_eq_some_iff.1 h
  rw [ArtifactPaths.of_eq base hName.1] at hLocate
  obtain ⟨hNull, -, hFollow⟩ := Workspace.locate_eq_ok_iff.1 hLocate
  have hMem : name ∈ base.names ++ [name] ++ [name ++ ".json"] := by simp
  constructor
  · obtain ⟨hEmpty, hPoint, hSlash⟩ := Path.isComponent_iff.1 hName.1
    exact Workspace.isEntryName_iff.2 ⟨hEmpty, hPoint, hName.2, hSlash,
      Workspace.null_notMem_text_iff.1 hNull name hMem, Workspace.size_le_of_follow hFollow hMem⟩
  · rw [Path.append_of_isComponent hName.1]
    exact Workspace.entry_front_of_locate (by simp) hLocate

/-- A run that succeeds leaves the rendering of a document that can be loaded. -/
theorem read?_regenerate_loadable (hName : IsDocumentName name)
    (hReturns : (regenerate w schemaName base).result.isOk = true)
    (hLoadable : isLoadable w (.of base name) = true) :
    ∃ text : String, IsRendering w schemaName (.of base name) text ∧
      (regenerate w schemaName base).workspace.read? (ArtifactPaths.of base name).markdown =
        some (Text.Utf8.encode text) := by
  obtain ⟨paths, hResult⟩ := Except.exists_of_isOk hReturns
  obtain ⟨names, -, hNames, -, hTexts⟩ := regenerate_eq_ok hResult
  obtain ⟨report, hLoad⟩ := isLoadable_iff.1 hLoadable
  obtain ⟨bytes, hRead⟩ := exists_read?_of_load hLoad
  obtain ⟨text, hRendering, hBytes⟩ :=
    hTexts name ((hNames name).2 ⟨holdsDirectory_of_read? hName hRead, hLoadable⟩)
  refine ⟨text, hRendering, ?_⟩
  rw [Workspace.read?, hBytes]
  rfl

/-- A regeneration that succeeds makes of a document what its own artifacts tell. -/
theorem contents_regenerate (hName : IsDocumentName name)
    (h : contents w (.of base name) = contents w' (.of base name))
    (hReturns : (regenerate w schemaName base).result.isOk = true)
    (hReturns' : (regenerate w' schemaName base).result.isOk = true) :
    contents (regenerate w schemaName base).workspace (.of base name) =
      contents (regenerate w' schemaName base).workspace (.of base name) := by
  obtain ⟨hJson, hMarkdown⟩ := Prod.mk.inj h
  unfold contents
  rw [read?_regenerate_json hName, read?_regenerate_json hName, hJson]
  cases hLoadable : isLoadable w (.of base name) with
  | false =>
    have hSkipped : isLoadable w' (.of base name) = false :=
      (isLoadable_congr hJson).symm.trans hLoadable
    rw [read?_regenerate_skipped hName hLoadable, read?_regenerate_skipped hName hSkipped,
      hMarkdown]
  | true =>
    have hLoadable' := (isLoadable_congr hJson).symm.trans hLoadable
    obtain ⟨text, hText, hRead⟩ := read?_regenerate_loadable hName hReturns hLoadable
    obtain ⟨text', hText', hRead'⟩ := read?_regenerate_loadable hName hReturns' hLoadable'
    obtain rfl := LooseText.ofString_inj.1 ((isRendering_congr h hText).unique hText')
    rw [hRead, hRead']

theorem IsReached.regenerate (hName : IsDocumentName name) (h : IsReached w (.of base name))
    (hReturns : (regenerate w schemaName base).result.isOk = true) :
    IsReached (Artifact.regenerate w schemaName base).workspace (.of base name) := by
  constructor
  · exact h.1.of_grows grows_regenerate (Workspace.file?_congr (at?_regenerate_json hName))
  · cases hLoadable : isLoadable w (.of base name) with
    | false =>
      exact h.2.of_grows grows_regenerate
        (Workspace.file?_congr (at?_regenerate_markdown hName hLoadable))
    | true =>
      obtain ⟨text, -, hRead⟩ := read?_regenerate_loadable hName hReturns hLoadable
      exact Workspace.reaches_of_read? hRead

end

section

variable {base : Path} {name : String} {w w' : Workspace} {call : Call}

/-- A call that concerns the document leaves the same in its artifacts if they held the same. -/
theorem Agree.outcome (hName : IsDocumentName name) (hConcerns : call.concerns name = true)
    (h : Agree w w' (.of base name)) (hOk : (call.outcome base w).result.isOk = true)
    (hOk' : (call.outcome base w').result.isOk = true) :
    Agree (call.outcome base w).workspace (call.outcome base w').workspace (.of base name) := by
  cases call with
  | save report other schemaName usage cost =>
    obtain rfl : other = name := by simpa [Call.concerns] using hConcerns
    rw [isOk_outcome_save] at hOk hOk'
    rw [workspace_outcome_save, workspace_outcome_save]
    exact agree_save hOk hOk'
  | regenerate schemaName =>
    rw [isOk_outcome_regenerate] at hOk hOk'
    rw [workspace_outcome_regenerate, workspace_outcome_regenerate]
    exact ⟨h.left.regenerate hName hOk, h.right.regenerate hName hOk',
      contents_regenerate hName h.contents_eq hOk hOk'⟩

theorem agree_outcome_of_other (hName : IsDocumentName name) (hNames : call.NamesDocument)
    (hConcerns : ¬ call.concerns name = true) (hReached : IsReached w (.of base name)) :
    Agree w (call.outcome base w).workspace (.of base name) := by
  cases call with
  | save report other schemaName usage cost =>
    have hNe : other ≠ name := by simpa [Call.concerns] using hConcerns
    rw [workspace_outcome_save]
    exact agree_save_of_ne hName hNames hNe hReached
  | regenerate schemaName => exact absurd rfl hConcerns

/-- Leaving out the saves of other documents changes nothing for this one. -/
theorem agree_filter {calls : List Call} (hName : IsDocumentName name)
    (hCalls : ∀ call ∈ calls, call.NamesDocument) (h : Agree w w' (.of base name))
    (hReturn : AllReturn base w calls)
    (hOwn : AllReturn base w' (calls.filter (·.concerns name))) :
    Agree (runCalls base w calls) (runCalls base w' (calls.filter (·.concerns name)))
      (.of base name) := by
  -- the second run goes on only with the calls that concern the document
  induction calls generalizing w w' with
  | nil => exact h
  | cons call rest ih =>
    obtain ⟨hNames, hRest⟩ := List.forall_mem_cons.1 hCalls
    obtain ⟨hOk, hReturn⟩ := hReturn
    by_cases hConcerns : call.concerns name = true
    · rw [List.filter_cons_of_pos hConcerns] at hOwn ⊢
      obtain ⟨hOk', hOwn⟩ := hOwn
      exact ih hRest (h.outcome hName hConcerns hOk hOk') hReturn hOwn
    · rw [List.filter_cons_of_neg hConcerns] at hOwn ⊢
      have hKept := agree_outcome_of_other hName hNames hConcerns h.left
      exact ih hRest (hKept.symm.trans h) hReturn hOwn

end

/-- Calls that concern different documents commute. -/
theorem at?_runCalls_comm {base : Path} {w : Workspace} {first second : Call}
    (hFirst : first.NamesDocument) (hSecond : second.NamesDocument)
    (hApart : ∀ name, first.concerns name = true → second.concerns name = false)
    (hReturn : AllReturn base w [first, second]) (hReturn' : AllReturn base w [second, first])
    (location : Location) : (runCalls base w [first, second]).at? location =
      (runCalls base w [second, first]).at? location := by
  have hOwn (report : Report) (name : String) (schemaName : LooseText) (usage : TokenUsage)
      (cost : Cost) : (Call.save report name schemaName usage cost).concerns name = true :=
    beq_self_eq_true name
  cases first with
  | regenerate schemaName =>
    -- a regeneration concerns every document, also the one that the other call saves
    cases second with
    | regenerate schemaName' => cases hApart "" rfl
    | save report name schemaName usage cost =>
      have hSame := hApart name rfl
      rw [hOwn] at hSame
      cases hSame
  | save report name schemaName usage cost =>
    have hOther := hApart name (hOwn ..)
    cases second with
    | regenerate schemaName' => cases hOther
    | save report' name' schemaName' usage' cost' =>
      have hNe : name' ≠ name := by simpa [Call.concerns] using hOther
      obtain ⟨hOk, hOk', -⟩ := hReturn
      obtain ⟨hSaved, hSaved', -⟩ := hReturn'
      rw [isOk_outcome_save] at hOk hSaved
      rw [isOk_outcome_save, workspace_outcome_save] at hOk' hSaved'
      simp only [runCalls_cons, runCalls_nil, workspace_outcome_save]
      exact at?_save_comm hFirst hSecond hNe.symm hOk hOk' hSaved hSaved' location

/-- Where every entry stands in a directory, and the base has no `..`, no directory is missing. -/
theorem isReached_of_isRooted {w : Workspace} {base : Path} {name : String}
    (hRooted : w.IsRooted) (hBase : ".." ∉ base.names) (hName : IsDocumentName name) :
    IsReached w (.of base name) := by
  rw [ArtifactPaths.of_eq base hName.1]
  constructor
  · apply Workspace.reaches_of_isRooted hRooted
    simp [hBase, hName.2.symm, (ArtifactPaths.json_ne_up name).symm]
  · apply Workspace.reaches_of_isRooted hRooted
    simp [hBase, hName.2.symm, (ArtifactPaths.markdown_ne_up (Text.upper name)).symm]

/-- Where no directory is missing on the way to the artifacts of a document, what they hold after
calls that all succeed is what the document's own saves and the regenerations alone leave in them.
Calls that concern different documents commute, and what a regeneration that succeeds makes of a
document hangs on what its own artifacts hold before, and on nothing else. -/
theorem contents_independent (base : Path) :
    (∀ w calls name, IsDocumentName name → (∀ call ∈ calls, call.NamesDocument) →
      IsReached w (.of base name) → AllReturn base w calls →
        AllReturn base w (calls.filter (·.concerns name)) →
          contents (runCalls base w calls) (.of base name) =
            contents (runCalls base w (calls.filter (·.concerns name))) (.of base name)) ∧
    (∀ w first second, first.NamesDocument → second.NamesDocument →
      (∀ name, first.concerns name = true → second.concerns name = false) →
        AllReturn base w [first, second] → AllReturn base w [second, first] →
          ∀ location, (runCalls base w [first, second]).at? location =
            (runCalls base w [second, first]).at? location) ∧
    ∀ w w' schemaName name, IsDocumentName name →
      contents w (.of base name) = contents w' (.of base name) →
        (regenerate w schemaName base).result.isOk = true →
          (regenerate w' schemaName base).result.isOk = true →
            contents (regenerate w schemaName base).workspace (.of base name) =
              contents (regenerate w' schemaName base).workspace (.of base name) := by
  refine ⟨?_, ?_, ?_⟩
  · intro w calls name hName hCalls hReached hReturn hOwn
    exact (agree_filter hName hCalls ⟨hReached, hReached, rfl⟩ hReturn hOwn).contents_eq
  · exact fun w first second => at?_runCalls_comm
  · exact fun w w' schemaName name => contents_regenerate

/-- The call that saves a report under a name. -/
def savesAs (name : String) : Call := .save (edition 1) name "default" .zero (.whole 0)

/-- A document. -/
def alone : Workspace :=
  ⟨[(["out"], .directory), (["out", "a"], .directory),
    (["out", "a", "a.json"], .file [0x7B, 0x7D])], by decide, by decide⟩

/-- The document with another beside it. -/
def beside : Workspace :=
  ⟨alone.entries ++
    [(["out", "b"], .directory), (["out", "b", "b.json"], .file [0x7B, 0x7D])],
    by decide, by decide⟩

theorem contents_independent_twoSaves :
    contents (runCalls ⟨.here, ["out"]⟩ .empty [savesAs "a", savesAs "b"])
        (.of ⟨.here, ["out"]⟩ "a") =
      contents (runCalls ⟨.here, ["out"]⟩ .empty [savesAs "a"]) (.of ⟨.here, ["out"]⟩ "a") ∧
    (∀ location, (runCalls ⟨.here, ["out"]⟩ .empty [savesAs "a", savesAs "b"]).at? location =
      (runCalls ⟨.here, ["out"]⟩ .empty [savesAs "b", savesAs "a"]).at? location) ∧
    contents (regenerate alone "default" ⟨.here, ["out"]⟩).workspace (.of ⟨.here, ["out"]⟩ "a") =
      contents (regenerate beside "default" ⟨.here, ["out"]⟩).workspace
        (.of ⟨.here, ["out"]⟩ "a") := by
  have hFirst : (savesAs "a").NamesDocument := show IsDocumentName "a" by decide
  have hSecond : (savesAs "b").NamesDocument := show IsDocumentName "b" by decide
  have hApart (name : String) (hOwn : (savesAs "a").concerns name = true) :
      (savesAs "b").concerns name = false := by
    obtain rfl : "a" = name := by simpa [savesAs, Call.concerns] using hOwn
    rfl
  have hReached : IsReached .empty (.of ⟨.here, ["out"]⟩ "a") :=
    isReached_of_isRooted Workspace.isRooted_empty (by decide) (by decide)
  have hReturn : AllReturn ⟨.here, ["out"]⟩ .empty [savesAs "a", savesAs "b"] :=
    ⟨by decide +kernel, by decide +kernel, trivial⟩
  have hReturn' : AllReturn ⟨.here, ["out"]⟩ .empty [savesAs "b", savesAs "a"] :=
    ⟨by decide +kernel, by decide +kernel, trivial⟩
  have hOwn : AllReturn ⟨.here, ["out"]⟩ .empty [savesAs "a"] := ⟨by decide +kernel, trivial⟩
  have hAlone : (regenerate alone "default" ⟨.here, ["out"]⟩).result.isOk = true := by
    have hFound : alone.subdirectories ⟨.here, ["out"]⟩ = .ok ["a"] := by decide +kernel
    refine isOk_regenerate_of_listed (LooseText.isPlain_ofString _) (by decide +kernel) hFound ?_
    rw [List.forall_mem_singleton]
    exact ⟨⟨(.zero, .zero), by decide +kernel⟩, by decide +kernel⟩
  have hBeside : (regenerate beside "default" ⟨.here, ["out"]⟩).result.isOk = true := by
    have hFound : beside.subdirectories ⟨.here, ["out"]⟩ = .ok ["a", "b"] := by decide +kernel
    refine isOk_regenerate_of_listed (LooseText.isPlain_ofString _) (by decide +kernel) hFound ?_
    rw [List.forall_mem_cons, List.forall_mem_singleton]
    exact ⟨⟨⟨(.zero, .zero), by decide +kernel⟩, by decide +kernel⟩,
      ⟨(.zero, .zero), by decide +kernel⟩, by decide +kernel⟩
  obtain ⟨hFilter, hCommute, hRegenerate⟩ := contents_independent ⟨.here, ["out"]⟩
  refine ⟨hFilter .empty [savesAs "a", savesAs "b"] "a" (by decide) ?_ hReached hReturn hOwn,
    hCommute .empty (savesAs "a") (savesAs "b") hFirst hSecond hApart hReturn hReturn',
    hRegenerate alone beside "default" "a" (by decide) (by decide +kernel) hAlone hBeside⟩
  rw [List.forall_mem_cons, List.forall_mem_singleton]
  exact ⟨hFirst, hSecond⟩

/-- A base that leads through a directory and up again. -/
def upAgain : Path := ⟨.here, ["m", ".."]⟩

/-- A document, where the directory that the base leads through is missing. -/
def cutOff : Workspace :=
  ⟨[(["a"], .directory), (["a", "a.json"], .file [0x7B, 0x7D])], by decide, by decide⟩

/-- The workspace in which the other document is saved. -/
def joined : Workspace :=
  (save cutOff upAgain (edition 1) "z" "default" .zero (.whole 0)).workspace

theorem isOk_regenerate_joined : (regenerate joined "default" upAgain).result.isOk = true := by
  have hSaved : (save cutOff upAgain (edition 1) "z" "default" .zero (.whole 0)).result.isOk =
      true := by
    decide +kernel
  have hOther := figuresIn_save (by decide) Statistics.costText_zero
    (Statistics.isAmount_of_costText rfl Statistics.costText_zero (by decide)) hSaved
  rw [← joined] at hOther
  have hFound : joined.subdirectories upAgain = .ok ["a", "m", "z"] := by decide +kernel
  refine isOk_regenerate_of_listed (LooseText.isPlain_ofString _) (by decide +kernel) hFound ?_
  rw [List.forall_mem_cons, List.forall_mem_cons, List.forall_mem_singleton]
  exact ⟨⟨⟨(.zero, .zero), by decide +kernel⟩, by decide +kernel⟩,
    ⟨⟨(.zero, .zero), by decide +kernel⟩, by decide +kernel⟩, ⟨_, hOther⟩, by decide +kernel⟩

/-- Saving another document makes the directory that was missing, and only then is the document
regenerated. -/
theorem not_contents_independent_cutOff :
    IsDocumentName "a" ∧ IsDocumentName "z" ∧
      AllReturn upAgain cutOff [savesAs "z", .regenerate "default"] ∧
        AllReturn upAgain cutOff [.regenerate "default"] ∧
          (∃ bytes, (runCalls upAgain cutOff [savesAs "z", .regenerate "default"]).at?
            ["a", "A.md"] = some (.file bytes)) ∧
          (runCalls upAgain cutOff [.regenerate "default"]).at? ["a", "A.md"] = none ∧
            contents (runCalls upAgain cutOff [savesAs "z", .regenerate "default"])
                (.of upAgain "a") ≠
              contents (runCalls upAgain cutOff [.regenerate "default"]) (.of upAgain "a") := by
  have hOwn : regenerate cutOff "default" upAgain = ⟨cutOff, [.baseMissing upAgain], .ok []⟩ := by
    have hBase : cutOff.isDirectory? upAgain = .ok false := by decide +kernel
    simp only [regenerate, hBase]
  have hJoined : ((savesAs "z").outcome upAgain cutOff).workspace = joined := by
    rw [savesAs, workspace_outcome_save, joined]
  have hReturn : AllReturn upAgain cutOff [savesAs "z", .regenerate "default"] := by
    rw [allReturn_cons, allReturn_cons, isOk_outcome_regenerate, hJoined]
    exact ⟨by decide +kernel, isOk_regenerate_joined, allReturn_nil _ _⟩
  have hReturnOwn : AllReturn upAgain cutOff [.regenerate "default"] := by
    rw [allReturn_cons, isOk_outcome_regenerate, hOwn]
    exact ⟨rfl, allReturn_nil _ _⟩
  have hLoadable : isLoadable joined (.of upAgain "a") = true := by decide +kernel
  obtain ⟨text, -, hRead⟩ := read?_regenerate_loadable (by decide) isOk_regenerate_joined hLoadable
  have hTarget : (ArtifactPaths.of upAgain "a").markdown.target = ["a", "A.md"] := by
    decide +kernel
  have hMissing : cutOff.read? (ArtifactPaths.of upAgain "a").markdown = none := by
    decide +kernel
  simp only [runCalls_cons, runCalls_nil, workspace_outcome_regenerate, hOwn, hJoined]
  refine ⟨by decide, by decide, hReturn, hReturnOwn, ⟨Text.Utf8.encode text, ?_⟩,
    by decide +kernel, ?_⟩
  · rw [← hTarget]
    exact Workspace.file?_eq_some_iff.1 (Workspace.file?_of_read? hRead)
  · rw [contents, contents, hRead, hMissing]
    simp

end Artifact

end ReportPress
