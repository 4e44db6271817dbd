import ReportPress.Proofs.Artifact.Calls
import ReportPress.Proofs.Artifact.Load

/-!
Documents that count as processed. A document does when anything stands at the place of its Markdown
artifact. The JSON artifact is written first and every later write leaves one that can be loaded, if
the reports keep the limits on what is read, so beside a Markdown artifact that calls have made
there always is a report. The one thing else that can stand at the place is a directory that was
made on the way to the base. Main statement: `load_of_isProcessed`.
-/

namespace ReportPress.Artifact

/-- The report that is saved was accepted. -/
def Call.IsAccepted : Call → Prop
  | .save report _ _ _ _ => report.IsAccepted
  | .regenerate _ => True

/-- The report that is saved keeps the limits on what is read. -/
def Call.IsReadable : Call → Prop
  | .save report _ _ _ _ => report.IsReadable
  | .regenerate _ => True

/-- The base leads through the place of the document's Markdown artifact. -/
def LeadsThrough (base : Path) (name : String) : Prop :=
  ∃ count, (base.front count).target = (ArtifactPaths.of base name).markdown.target

/-- What stands at the place of the document's Markdown artifact stands beside a report, or it is a
directory on the way to the base. -/
def IsBacked (base : Path) (w : Workspace) (name : String) : Prop :=
  ∀ entry, w.at? (ArtifactPaths.of base name).markdown.target = some entry →
    isLoadable w (.of base name) = true ∨ entry = .directory ∧ LeadsThrough base name

section

variable {w w' : Workspace} {base : Path} {name : String}

theorem isBacked_empty (hName : IsDocumentName name) : IsBacked base .empty name := by
  have hFixed : Workspace.isFixed (ArtifactPaths.of base name).markdown.target = false := by
    rw [ArtifactPaths.target_markdown base hName, Workspace.isFixed, Bool.or_eq_false_iff]
    constructor
    · rw [List.all_eq_false]
      exact ⟨Text.upper name ++ ".md", by simp, by simpa using ArtifactPaths.markdown_ne_up _⟩
    · apply beq_false_of_ne
      intro hRoot
      have hLength := congrArg List.length hRoot
      simp at hLength
  intro entry hAt
  simp [Workspace.at?, hFixed, Workspace.empty] at hAt

theorem isLoadable_of_grows (hGrows : Workspace.Grows w w')
    (hSame : w'.file? (ArtifactPaths.of base name).json.target =
      w.file? (ArtifactPaths.of base name).json.target)
    (h : isLoadable w (.of base name) = true) : isLoadable w' (.of base name) = true := by
  obtain ⟨report, hLoad⟩ := isLoadable_iff.1 h
  exact isLoadable_iff.2 ⟨report, load_of_grows hGrows hSame hLoad⟩

/-- Making directories on the way to a document leaves all documents backed. -/
theorem IsBacked.of_made {other : String} (hBacked : IsBacked base w name)
    (hName : IsDocumentName name) (hOther : IsDocumentName other)
    (hGrows : Workspace.Grows w w')
    (hJson : w'.file? (ArtifactPaths.of base name).json.target =
      w.file? (ArtifactPaths.of base name).json.target)
    (hMarkdown : w'.at? (ArtifactPaths.of base name).markdown.target =
        w.at? (ArtifactPaths.of base name).markdown.target ∨
      w.at? (ArtifactPaths.of base name).markdown.target = none ∧
        w'.at? (ArtifactPaths.of base name).markdown.target = some .directory ∧
          ∃ count, ((ArtifactPaths.of base other).directory.front count).target =
            (ArtifactPaths.of base name).markdown.target) : IsBacked base w' name := by
  intro entry hAt
  rcases hMarkdown with hSame | ⟨-, hMade, count, hFront⟩
  · rw [hSame] at hAt
    exact (hBacked entry hAt).imp (isLoadable_of_grows hGrows hJson) id
  · right
    rw [hMade] at hAt
    refine ⟨(Option.some.inj hAt).symm, count, ?_⟩
    rcases ArtifactPaths.target_front_directory base hOther count with hBase | hOwn
    · rw [← hBase, hFront]
    · rw [hOwn, ArtifactPaths.target_markdown base hName] at hFront
      simp at hFront

end

section

variable {w : Workspace} {base : Path} {report : Report} {name other : String}
  {schemaName : LooseText} {usage : TokenUsage} {cost : Cost}

/-- Saving a report that can be read leaves one that can be loaded, or has made directories at
most. -/
theorem isLoadable_save (hAccepted : report.IsAccepted) (hReadable : report.IsReadable) :
    isLoadable (save w base report name schemaName usage cost).workspace (.of base name) = true ∨
      Workspace.MakesDirectories w (save w base report name schemaName usage cost).workspace
        (ArtifactPaths.of base name).directory := by
  have hSaves := saves_saveTexts w (.of base name) (.of report schemaName usage cost)
  rw [save]
  generalize saveTexts w (.of base name) (.of report schemaName usage cost) = outcome at hSaves ⊢
  -- a JSON artifact that holds the text of the report can be loaded
  have hLoadable {w' : Workspace} {text : String}
      (hText : (Artifacts.of report schemaName usage cost).json = .ok text)
      (hBytes : w'.readBytes (ArtifactPaths.of base name).json = .ok (Text.Utf8.encode text)) :
      isLoadable w' (.of base name) = true :=
    isLoadable_iff.2
      ⟨_, load_of_readBytes hAccepted.isKept hReadable (artifactText_of_json hText) hBytes⟩
  cases hSaves with
  | unwritten hMade => exact .inr hMade
  | jsonEmptied _ hText hNotPlain =>
    obtain ⟨text, -, rfl⟩ := json_of_eq_ok_iff.1 hText
    exact absurd (LooseText.isPlain_ofString text) hNotPlain
  | halfWritten _ hText hJson =>
    exact .inl (hLoadable hText (Workspace.readBytes_of_writeBytes hJson fun _ hLocate =>
      (ArtifactPaths.locate_json hLocate).1))
  | markdownEmptied _ hText hJson _ _ hMarkdown =>
    exact .inl (hLoadable hText (readBytes_json hJson hMarkdown))
  | written _ hText hJson _ hMarkdown =>
    exact .inl (hLoadable hText (readBytes_json hJson hMarkdown))

theorem isBacked_save (hName : IsDocumentName name) (hOther : IsDocumentName other)
    (hAccepted : report.IsAccepted) (hReadable : report.IsReadable)
    (hBacked : IsBacked base w name) :
    IsBacked base (save w base report other schemaName usage cost).workspace name := by
  by_cases hSame : name = other
  · subst hSame
    rcases isLoadable_save hAccepted hReadable with hLoadable | hMade
    · exact fun _ _ => .inl hLoadable
    · exact hBacked.of_made hName hOther grows_save (Workspace.file?_of_made (hMade _)) (hMade _)
  · apply hBacked.of_made hName hOther grows_save
    · exact file?_save_of_ne (ArtifactPaths.target_json_ne_json base hOther hName hSame)
        (ArtifactPaths.target_json_ne_markdown base hOther hName)
    · exact at?_save_of_ne (ArtifactPaths.target_json_ne_markdown base hName hOther).symm
        (ArtifactPaths.target_markdown_ne_markdown base hOther hName hSame)

theorem isBacked_regenerate (hName : IsDocumentName name) (hBacked : IsBacked base w name) :
    IsBacked base (regenerate w schemaName base).workspace name := by
  have hKept : isLoadable w (.of base name) = true →
      isLoadable (regenerate w schemaName base).workspace (.of base name) = true :=
    isLoadable_of_grows grows_regenerate (Workspace.file?_congr (at?_regenerate_json hName))
  intro entry hAt
  cases hLoadable : isLoadable w (.of base name) with
  | true => exact .inl (hKept hLoadable)
  | false =>
    rw [at?_regenerate_markdown hName hLoadable] at hAt
    exact (hBacked entry hAt).imp hKept id

end

theorem isBacked_runCalls {w : Workspace} {base : Path} {calls : List Call} {name : String}
    (hName : IsDocumentName name)
    (hCalls : ∀ call ∈ calls, call.NamesDocument ∧ call.IsAccepted ∧ call.IsReadable)
    (h : IsBacked base w name) : IsBacked base (runCalls base w calls) name := by
  induction calls generalizing w with
  | nil => exact h
  | cons call rest ih =>
    obtain ⟨⟨hNames, hAccepted, hReadable⟩, hRest⟩ := List.forall_mem_cons.1 hCalls
    rw [runCalls_cons]
    apply ih hRest
    cases call with
    | save =>
      rw [workspace_outcome_save]
      exact isBacked_save hName hNames hAccepted hReadable h
    | regenerate =>
      rw [workspace_outcome_regenerate]
      exact isBacked_regenerate hName h

/-- After calls from the empty workspace on, where the reports that are saved keep the limits on
what is read, a document that counts as processed has a JSON artifact that can be loaded, unless a
directory that the base leads through stands in the place of its Markdown. -/
theorem load_of_isProcessed {base : Path} {calls : List Call} {name : String}
    (hName : IsDocumentName name)
    (hCalls : ∀ call ∈ calls, call.NamesDocument ∧ call.IsAccepted ∧ call.IsReadable)
    (hProcessed : isProcessed (runCalls base .empty calls) base name = .ok true) :
    ((runCalls base .empty calls).exists? (ArtifactPaths.of base name).json = .ok true ∧
      ∃ report, load (runCalls base .empty calls) (ArtifactPaths.of base name).json = .ok report) ∨
    (runCalls base .empty calls).entry (ArtifactPaths.of base name).markdown = .ok .directory ∧
      LeadsThrough base name := by
  have hBacked : IsBacked base (runCalls base .empty calls) name :=
    isBacked_runCalls hName hCalls (isBacked_empty hName)
  generalize runCalls base .empty calls = w at hBacked hProcessed ⊢
  obtain ⟨entry, hEntry⟩ := Workspace.exists_entry_of_exists? hProcessed
  obtain ⟨location, hLocate, hAt⟩ := Workspace.entry_eq_ok_iff.1 hEntry
  rw [← Workspace.target_of_locate hLocate] at hAt
  rcases hBacked entry hAt with hLoadable | ⟨rfl, hThrough⟩
  · left
    obtain ⟨report, hLoad⟩ := isLoadable_iff.1 hLoadable
    exact ⟨exists?_of_load hLoad, report, hLoad⟩
  · exact .inr ⟨hEntry, hThrough⟩

/-- The call that saves a report, at a cost. -/
def saves (report : Report) (cost : Int) : Call :=
  .save report "report" "default" .zero (.whole cost)

theorem namesDocument_saves (report : Report) (cost : Int) : (saves report cost).NamesDocument :=
  show IsDocumentName "report" by decide

theorem isAccepted_edition (number : Int) : (edition number).IsAccepted :=
  .data _ (Report.distinct_edition (Json.distinct_of_parts_nil rfl)) (Report.check_ofEdition _)

/-- The second edition, whose Markdown cannot be written for its cost, saved after the first. -/
def twoEditions : List Call := [saves (edition 1) 0, saves (edition 2) (.ofNat (Nat.pow 10 400))]

/-- The document keeps a report beside the Markdown of the first edition. -/
theorem load_of_isProcessed_twoEditions :
    isProcessed (runCalls ⟨.here, ["out"]⟩ .empty twoEditions) ⟨.here, ["out"]⟩ "report" =
        .ok true ∧
      ∃ report, load (runCalls ⟨.here, ["out"]⟩ .empty twoEditions)
        (ArtifactPaths.of ⟨.here, ["out"]⟩ "report").json = .ok report := by
  have hProcessed : isProcessed (runCalls ⟨.here, ["out"]⟩ .empty twoEditions)
      ⟨.here, ["out"]⟩ "report" = .ok true := by
    decide +kernel
  have hCalls : ∀ call ∈ twoEditions, call.NamesDocument ∧ call.IsAccepted ∧ call.IsReadable := by
    have hReadable : (edition 1).IsReadable ∧ (edition 2).IsReadable := by decide +kernel
    rw [twoEditions, List.forall_mem_cons, List.forall_mem_singleton]
    exact ⟨⟨namesDocument_saves _ _, isAccepted_edition 1, hReadable.1⟩,
      namesDocument_saves _ _, isAccepted_edition 2, hReadable.2⟩
  refine ⟨hProcessed, ?_⟩
  rcases load_of_isProcessed (by decide) hCalls hProcessed with ⟨-, hLoad⟩ | ⟨hDirectory, -⟩
  · exact hLoad
  · refine absurd hDirectory ?_
    decide +kernel

/-- Saving a report whose numbers have few enough digits makes a document count as processed that
has no report. -/
def IsStranded (base : Path) (report : Report) (name : String) : Prop :=
  report.IsAccepted ∧ report.HasFewDigits ∧ IsDocumentName name ∧
    isProcessed (runCalls base .empty [saves report 0]) base name = .ok true ∧
      ∀ loaded, load (runCalls base .empty [saves report 0]) (ArtifactPaths.of base name).json ≠
        .ok loaded

/-- A base that leads through the place of a Markdown artifact and up again. -/
def detour : Path := ⟨.here, ["x", "X.md", "..", ".."]⟩

theorem isStranded_detour : IsStranded detour (edition 1) "x" := by
  have hReadable : (edition 1).IsReadable := by decide +kernel
  refine ⟨isAccepted_edition 1, hReadable.hasFewDigits, by decide, by decide +kernel,
    fun report hLoad => ?_⟩
  have hMissing : (runCalls detour .empty [saves (edition 1) 0]).exists?
      (ArtifactPaths.of detour "x").json = .ok false := by
    decide +kernel
  rw [exists?_of_load hLoad] at hMissing
  cases hMissing

theorem IsUnloadable.isStranded {report : Report} (h : IsUnloadable report) :
    IsStranded ⟨.here, ["out"]⟩ report "report" := by
  obtain ⟨hAccepted, hDigits, text, hText, hNot⟩ := h
  have hSaved := savedAlone_eq_ok hText (Report.isShowable_of_hasFewDigits hDigits)
  obtain ⟨-, _, document, hSame, -, hJson, hMarkdown⟩ := readBytes_save hSaved
  obtain rfl := Except.ok.inj (hText.symm.trans hSame)
  exact ⟨hAccepted, hDigits, by decide, Workspace.exists?_of_readBytes hMarkdown, hNot _ _ hJson⟩

/-- Saving a document below the base makes another one count as processed that has no report, and so
does saving a report whose text is not loaded. -/
theorem not_load_of_isProcessed_stranded :
    IsStranded detour (edition 1) "x" ∧
      IsStranded ⟨.here, ["out"]⟩ (.ofEdition (.int (-longNumber))) "report" ∧
        IsStranded ⟨.here, ["out"]⟩ (.ofEdition (Report.nestedLists 200)) "report" :=
  ⟨isStranded_detour, isUnloadable_long.isStranded, isUnloadable_deep.isStranded⟩

end ReportPress.Artifact
