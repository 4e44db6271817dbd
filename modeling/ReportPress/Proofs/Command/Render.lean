import ReportPress.Proofs.Artifact.Idempotence
import ReportPress.Proofs.Artifact.Independence
import ReportPress.Proofs.Command.Markup
import ReportPress.Proofs.Command.Words
import ReportPress.Proofs.Except
import ReportPress.Proofs.Settings.Pricing

/-!
Rendering one artifact by a command and regenerating all of them. A rendering that succeeds makes
directories on the way to its output and writes the document at the prices that are set there. Where
the output is the document's own Markdown, regeneration recovers the figures from it and writes the
same bytes. Main statement: `regenerate_after_render`.
-/

namespace ReportPress

/-- The command ended with exit code 0. -/
def Ending.isSuccess : Ending → Bool
  | .exited code _ => code == 0
  | _ => false

namespace Command

open Artifact Statistics

section

variable {w : Workspace} {settings : Settings} {report : Report} {artifact output : Path}
  {target : Option Path} {schemaName : String} {document : LooseText} {usage : TokenUsage}
  {code : Nat} {notices : List Notice} {markup : String}

theorem workspace_exitWithLine : (exitWithLine w notices code markup).workspace = w := by
  rw [exitWithLine]
  cases Markup.plain markup <;> rfl

theorem code_of_exitWithLine (h : (exitWithLine w notices code markup).ending.isSuccess = true) :
    code = 0 := by
  rw [exitWithLine] at h
  cases hPlain : Markup.plain markup with
  | error e => simp [hPlain, Ending.isSuccess] at h
  | ok line =>
    rw [hPlain] at h
    exact eq_of_beq h

/-- A document that was delivered to a file can be encoded, and is all that was written. -/
theorem writeBytes_of_deliver
    (h : (deliver w document (some output)).ending.isSuccess = true) :
    ∃ (text : String) (made : Workspace), document = text ∧
      Workspace.MakesDirectories w made output.parent ∧
        made.writeBytes output (Text.Utf8.encode text) =
          .ok (deliver w document (some output)).workspace := by
  have hMade := Workspace.makesDirectories_makeDirectories w output.parent
  unfold deliver at h ⊢
  dsimp only at h ⊢
  generalize w.makeDirectories output.parent = result at hMade h ⊢
  obtain ⟨made, answer⟩ := result
  cases answer with
  | error e => cases h
  | ok _ =>
    have hWrite := Workspace.writesText_writeText made output document
    dsimp only at h ⊢
    generalize made.writeText output document = outcome at hWrite h ⊢
    cases hWrite with
    | refused => cases h
    | emptied => cases h
    | written hPlain hWritten =>
      refine ⟨_, made, hPlain, hMade, ?_⟩
      rw [workspace_exitWithLine]
      exact hWritten

/-- A rendering that succeeds delivers the document of the report at the prices that are set. -/
theorem run_render_of_isSuccess {input tokens : Nat}
    (h : (run w settings (.render artifact schemaName target input tokens)).ending.isSuccess =
      true) :
    ∃ report document, load w artifact = .ok report ∧
      priced settings report schemaName (.ofInputOutput input tokens) = .ok document ∧
        run w settings (.render artifact schemaName target input tokens) =
          deliver w document target := by
  rw [run] at h ⊢
  split at h
  · rw [renderArtifact] at h
    cases hLoad : load w artifact with
    | error failure =>
      rw [hLoad] at h
      cases failure with
      | rejected rejection => exact absurd (code_of_exitWithLine h) (by decide)
      | _ => cases h
    | ok report =>
      rw [hLoad] at h
      cases hPriced : priced settings report schemaName (.ofInputOutput input tokens) with
      | error failure => simp [hPriced, Ending.isSuccess] at h
      | ok document =>
        refine ⟨report, document, rfl, hPriced, ?_⟩
        rw [renderArtifact, hLoad]
        simp only [hPriced]
  · cases h

end

section

variable {w w' : Workspace} {settings : Settings} {base : Path} {report : Report}
  {name schemaName : String} {usage : TokenUsage} {pricing : Pricing} {cost : Binary64}

theorem document_of_priced {document : LooseText} (hPricing : settings.pricing = .ok pricing)
    (hCost : pricing.cost usage = .ok cost)
    (h : priced settings report schemaName usage = .ok document) :
    Markdown.document report schemaName usage (.exact cost) = .ok document := by
  obtain ⟨prices, hPrices, h⟩ := Except.bind_eq_ok_iff.1 h
  obtain rfl := Except.ok.inj (hPricing.symm.trans (Except.mapError_eq_ok_iff.1 hPrices))
  obtain ⟨amount, hAmount, h⟩ := Except.bind_eq_ok_iff.1 h
  obtain rfl := Except.ok.inj (hCost.symm.trans (Except.mapError_eq_ok_iff.1 hAmount))
  exact Except.mapError_eq_ok_iff.1 h

theorem load_of_written (hName : IsDocumentName name) {made : Workspace} {path : Path}
    {bytes : List UInt8} (hMade : Workspace.MakesDirectories w made path)
    (hWritten : made.writeBytes (ArtifactPaths.of base name).markdown bytes = .ok w')
    (hLoad : load w (ArtifactPaths.of base name).json = .ok report) :
    load w' (ArtifactPaths.of base name).json = .ok report := by
  have hApart := ArtifactPaths.json_apart base hName.1
  refine load_of_grows (hMade.grows.trans (Workspace.grows_writeBytes hWritten)) ?_ hLoad
  rw [Workspace.file?_congr (Workspace.at?_writeBytes_of_ne hWritten hApart)]
  exact Workspace.file?_of_made (hMade _)

theorem regenerate_rendering {document : String} {paths : List Path} (hName : IsDocumentName name)
    (hRendering : IsRendering w schemaName (.of base name) document)
    (hResult : (Artifact.regenerate w schemaName base).result = .ok paths) :
    (ArtifactPaths.of base name).markdown ∈ paths ∧
      (Artifact.regenerate w schemaName base).workspace.readBytes
        (ArtifactPaths.of base name).markdown = .ok (Text.Utf8.encode document) := by
  obtain ⟨report, hLoad⟩ := isLoadable_iff.1 hRendering.isLoadable
  obtain ⟨bytes, hRead⟩ := exists_read?_of_load hLoad
  obtain ⟨names, -, hNames, rfl, hTexts⟩ := regenerate_eq_ok hResult
  have hMem := (hNames name).2 ⟨holdsDirectory_of_read? hName hRead, hRendering.isLoadable⟩
  obtain ⟨text, hText, hBytes⟩ := hTexts name hMem
  obtain rfl := LooseText.ofString_inj.1 (hRendering.unique hText)
  exact ⟨List.mem_map_of_mem hMem, hBytes⟩

end

section

variable {w : Workspace} {settings : Settings} {base : Path} {report : Report}
  {name artifact output schemaName : String} {input tokens : Nat}
  {pricing : Pricing} {cost : Binary64} {command : Command} {paths : List Path}

/-- A document that was rendered to the place of its Markdown would be rendered from there again. -/
theorem isRendering_run (hName : IsDocumentName name)
    (hLoad : load w (ArtifactPaths.of base name).json = .ok report)
    (hSchema : '|' ∉ schemaName.toList) (hPricing : settings.pricing = .ok pricing)
    (hCost : pricing.cost (.ofInputOutput input tokens) = .ok cost)
    (hFinite : cost.isFinite = true) (hSign : '-' ∉ (cost.fixed costPlaces).toList)
    (hCommand : command = .render (ArtifactPaths.of base name).json schemaName
      (some (ArtifactPaths.of base name).markdown) input tokens)
    (hDone : (command.run w settings).ending.isSuccess = true) :
    ∃ document : String,
      Markdown.document report schemaName (.ofInputOutput input tokens) (.exact cost) =
          .ok document ∧
        (command.run w settings).workspace.readBytes (ArtifactPaths.of base name).markdown =
            .ok (Text.Utf8.encode document) ∧
          IsRendering (command.run w settings).workspace schemaName (.of base name) document := by
  subst hCommand
  obtain ⟨loaded, rendering, hLoaded, hPriced, hRun⟩ := run_render_of_isSuccess hDone
  obtain rfl := Except.ok.inj (hLoad.symm.trans hLoaded)
  rw [hRun] at hDone ⊢
  obtain ⟨document, made, rfl, hMade, hWritten⟩ := writeBytes_of_deliver hDone
  generalize (deliver w document (some (ArtifactPaths.of base name).markdown)).workspace = rendered
    at hWritten ⊢
  have hDocument := document_of_priced hPricing hCost hPriced
  have hBytes : rendered.readBytes (ArtifactPaths.of base name).markdown =
      .ok (Text.Utf8.encode document) :=
    Workspace.readBytes_of_writeBytes hWritten fun _ hLocate =>
      (ArtifactPaths.locate_markdown hLocate).1
  have hExact : Cost.isFinite (.exact cost) = true := hFinite
  have hAmount := isAmount_of_costText hExact (costText_exact cost) hSign
  exact ⟨document, hDocument, hBytes, isRendering_of_document hSchema hAmount
    (load_of_written hName hMade hWritten hLoad) hDocument hBytes⟩

/-- A document that is rendered by a command to the place of its own Markdown is told by a
regeneration that follows and succeeds, and its bytes stay as they are. -/
theorem regenerate_after_render (hName : IsDocumentName name)
    (hArtifact : .ofString artifact = (ArtifactPaths.of base name).json)
    (hOutput : .ofString output = (ArtifactPaths.of base name).markdown)
    (hLoad : load w (ArtifactPaths.of base name).json = .ok report)
    (hSchema : '|' ∉ schemaName.toList) (hPricing : settings.pricing = .ok pricing)
    (hCost : pricing.cost (.ofInputOutput input tokens) = .ok cost)
    (hFinite : cost.isFinite = true) (hSign : '-' ∉ (cost.fixed costPlaces).toList)
    (hCommand : ofWords? (renderWords artifact schemaName output input tokens) = some command)
    (hDone : (command.run w settings).ending.isSuccess = true)
    (hResult :
      (Artifact.regenerate (command.run w settings).workspace schemaName base).result = .ok paths) :
    (ArtifactPaths.of base name).markdown ∈ paths ∧ ∃ document : String,
      Markdown.document report schemaName (.ofInputOutput input tokens) (.exact cost) =
          .ok document ∧
        (command.run w settings).workspace.readBytes (ArtifactPaths.of base name).markdown =
            .ok (Text.Utf8.encode document) ∧
          (Artifact.regenerate (command.run w settings).workspace schemaName
            base).workspace.readBytes (ArtifactPaths.of base name).markdown =
              .ok (Text.Utf8.encode document) := by
  -- the path of an artifact has a slash, so it takes no other word for its value
  have hSlash : '/' ∈ artifact.toList := by
    apply Path.slash_mem_of_names
    rw [hArtifact, ArtifactPaths.of_eq base hName.1]
    simp
  have hRender := ofWords?_renderWords hSlash hCommand
  rw [hArtifact, hOutput] at hRender
  obtain ⟨document, hDocument, hBytes, hRendering⟩ :=
    isRendering_run hName hLoad hSchema hPricing hCost hFinite hSign hRender hDone
  obtain ⟨hTold, hKept⟩ := regenerate_rendering hName hRendering hResult
  exact ⟨hTold, document, hDocument, hBytes, hKept⟩

end

/-- A report that can be priced and written to a plain path is rendered there. -/
theorem run_render_saved {w made w' : Workspace} {settings : Settings} {report : Report}
    {artifact output : Path} {schemaName : String} {document : LooseText} {input tokens : Nat}
    (hLoad : load w artifact = .ok report)
    (hPriced : priced settings report schemaName (.ofInputOutput input tokens) = .ok document)
    (hMade : w.makeDirectories output.parent = (made, .ok ()))
    (hWritten : made.writeText output document = (w', .ok ()))
    (hText : Markup.IsPlain output.text.toList) :
    ∃ line, run w settings (.render artifact schemaName (some output) input tokens) =
      ⟨w', [], .exited 0 line⟩ := by
  obtain ⟨bytes, hRead⟩ := exists_read?_of_load hLoad
  have hEntry := Workspace.entry_eq_ok_iff.2 (Workspace.read?_eq_some_iff.1 hRead)
  have hShown := Markup.isOk_plain_saved hText
  simp only [run, hEntry, renderArtifact, hLoad, hPriced, deliver, hMade, hWritten, exitWithLine]
  cases hPlain : Markup.plain ("[green]Markdown saved to:[/green] " ++ output.text) with
  | error e =>
    rw [hPlain] at hShown
    cases hShown
  | ok line => exact ⟨_, rfl⟩

/-- The command that renders the document to its Markdown. -/
def renderAlone : Command :=
  .render (.ofString "out/a/a.json") "default" (some (.ofString "out/a/A.md")) 1200 345

theorem ofWords?_renderAlone :
    ofWords? (renderWords "out/a/a.json" "default" "out/a/A.md" 1200 345) =
      some renderAlone := by
  have hSome : (ofWords? (renderWords "out/a/a.json" "default" "out/a/A.md" 1200 345)).isSome =
      true := by
    decide +kernel
  obtain ⟨command, hCommand⟩ := Option.isSome_iff_exists.1 hSome
  rw [hCommand, ofWords?_renderWords (by decide) hCommand]
  rfl

/-- The report of its artifact. -/
def aloneReport : Report :=
  (load alone (.ofString "out/a/a.json")).toOption.getD ⟨none, none, []⟩

/-- The document that the command writes. -/
def aloneDocument : LooseText :=
  (priced .standard aloneReport "default" (.ofInputOutput 1200 345)).toOption.getD ""

/-- The workspace with the document in it. -/
def renderedAlone : Workspace :=
  (Workspace.writeText (alone.makeDirectories (.ofString "out/a")).1 (.ofString "out/a/A.md")
    aloneDocument).1

theorem run_renderAlone :
    ∃ line, renderAlone.run alone .standard = ⟨renderedAlone, [], .exited 0 line⟩ := by
  have hOk : (load alone (.ofString "out/a/a.json")).isOk = true ∧
      (priced .standard aloneReport "default" (.ofInputOutput 1200 345)).isOk = true ∧
      (alone.makeDirectories (Path.ofString "out/a/A.md").parent).2 = .ok () ∧
      (Workspace.writeText (alone.makeDirectories (.ofString "out/a")).1
        (.ofString "out/a/A.md") aloneDocument).2 = .ok () ∧
      Markup.IsPlain (Path.ofString "out/a/A.md").text.toList := by
    decide +kernel
  obtain ⟨hLoad, hPriced, hMade, hResult, hText⟩ := hOk
  have hWritten : Workspace.writeText (alone.makeDirectories (.ofString "out/a")).1
      (.ofString "out/a/A.md") aloneDocument = (renderedAlone, .ok ()) := by
    rw [← hResult, renderedAlone]
  exact run_render_saved (Except.eq_ok_of_isOk hLoad _) (Except.eq_ok_of_isOk hPriced _)
    (Prod.ext rfl hMade) hWritten hText

theorem isSuccess_renderAlone :
    (renderAlone.run alone .standard).ending.isSuccess = true := by
  obtain ⟨line, hRun⟩ := run_renderAlone
  rw [hRun]
  rfl

/-- The prices where nothing is set. -/
def setPricing : Pricing := Settings.standard.pricing.toOption.getD .standard

/-- What the command shows as the cost. -/
def aloneCost : Binary64 := (setPricing.cost (.ofInputOutput 1200 345)).toOption.getD .zero

theorem priced_alone :
    load alone (ArtifactPaths.of ⟨.here, ["out"]⟩ "a").json = .ok aloneReport ∧
      Settings.standard.pricing = .ok setPricing ∧
        setPricing.cost (.ofInputOutput 1200 345) = .ok aloneCost ∧
          aloneCost.isFinite = true ∧ '-' ∉ (aloneCost.fixed costPlaces).toList := by
  have hOk : (load alone (ArtifactPaths.of ⟨.here, ["out"]⟩ "a").json).isOk = true ∧
      Settings.standard.pricing.isOk = true ∧
      (setPricing.cost (.ofInputOutput 1200 345)).isOk = true ∧
      aloneCost.isFinite = true ∧ '-' ∉ (aloneCost.fixed costPlaces).toList := by
    decide +kernel
  obtain ⟨hLoad, hPricing, hCost, hShown⟩ := hOk
  exact ⟨Except.eq_ok_of_isOk hLoad _, Except.eq_ok_of_isOk hPricing _,
    Except.eq_ok_of_isOk hCost _, hShown⟩

theorem isOk_regenerate_renderedAlone {document : LooseText}
    (h : IsRendering renderedAlone "default" (.of ⟨.here, ["out"]⟩ "a") document) :
    (Artifact.regenerate renderedAlone "default" ⟨.here, ["out"]⟩).result.isOk = true := by
  have hOut : renderedAlone.entry ⟨.here, ["out"]⟩ = .ok .directory ∧
      renderedAlone.subdirectories ⟨.here, ["out"]⟩ = .ok ["a"] ∧
      (ArtifactPaths.of ⟨.here, ["out"]⟩ "a").json.IsShort ∧
      (ArtifactPaths.of ⟨.here, ["out"]⟩ "a").markdown.IsShort ∧
      renderedAlone.entry (ArtifactPaths.of ⟨.here, ["out"]⟩ "a").markdown ≠ .ok .directory := by
    decide +kernel
  obtain ⟨hBase, hFound, hClear⟩ := hOut
  obtain ⟨-, usage, cost, -, hFigures, -⟩ := h
  refine isOk_regenerate_of_listed (LooseText.isPlain_ofString _) hBase hFound ?_
  rw [List.forall_mem_singleton]
  exact ⟨⟨(usage, cost), hFigures⟩, hClear⟩

theorem regenerate_after_render_alone : ∃ (paths : List Path) (document : String),
    (Artifact.regenerate (renderAlone.run alone .standard).workspace "default"
        ⟨.here, ["out"]⟩).result = .ok paths ∧
      (ArtifactPaths.of ⟨.here, ["out"]⟩ "a").markdown ∈ paths ∧
        (renderAlone.run alone .standard).workspace.readBytes
            (ArtifactPaths.of ⟨.here, ["out"]⟩ "a").markdown = .ok (Text.Utf8.encode document) ∧
          (Artifact.regenerate (renderAlone.run alone .standard).workspace "default"
              ⟨.here, ["out"]⟩).workspace.readBytes
            (ArtifactPaths.of ⟨.here, ["out"]⟩ "a").markdown = .ok (Text.Utf8.encode document) := by
  obtain ⟨hLoad, hPricing, hCost, hFinite, hSign⟩ := priced_alone
  have hName : IsDocumentName "a" := by decide
  have hSchema : '|' ∉ "default".toList := by decide
  have hCommand : renderAlone = .render (ArtifactPaths.of ⟨.here, ["out"]⟩ "a").json "default"
      (some (ArtifactPaths.of ⟨.here, ["out"]⟩ "a").markdown) 1200 345 := rfl
  have hDone := isSuccess_renderAlone
  -- the figures are in the Markdown by the general theorem, so they need not be computed from it
  obtain ⟨_, -, -, hRendering⟩ :=
    isRendering_run hName hLoad hSchema hPricing hCost hFinite hSign hCommand hDone
  have hReturns : (Artifact.regenerate (renderAlone.run alone .standard).workspace
      "default" ⟨.here, ["out"]⟩).result.isOk = true := by
    obtain ⟨line, hRun⟩ := run_renderAlone
    rw [hRun] at hRendering ⊢
    exact isOk_regenerate_renderedAlone hRendering
  obtain ⟨paths, hResult⟩ := Except.exists_of_isOk hReturns
  obtain ⟨hTold, document, -, hBytes, hKept⟩ :=
    regenerate_after_render hName rfl rfl hLoad hSchema hPricing hCost hFinite hSign
      ofWords?_renderAlone hDone hResult
  exact ⟨paths, document, hResult, hTold, hBytes, hKept⟩

end Command

end ReportPress
