import ReportPress.Proofs.Command.Refusal

/-!
Commands that fail with the refusal of a record. A rejected artifact is told or passed over, so only
the prices that the settings give can be refused. Main statement: `pricing_of_load`.
-/

namespace ReportPress

/-- A failure that is the refusal of a record. -/
def Failure.isRejection : Failure → Bool
  | .rejected _ => true
  | _ => false

/-- The work ended with the refusal of a record. -/
def hasRejection {α : Type} : Except Failure α → Bool
  | .error failure => failure.isRejection
  | .ok _ => false

def Ending.isRejection : Ending → Bool
  | .failed failure => failure.isRejection
  | _ => false

theorem hasRejection_mapError {α ε : Type} {f : ε → Failure} {result : Except ε α}
    (h : ∀ e, (f e).isRejection = false) : hasRejection (result.mapError f) = false := by
  cases result with
  | error e => exact h e
  | ok a => rfl

theorem isRejection_ofWrite (e : Workspace.WriteError) :
    (Failure.ofWrite e).isRejection = false := by
  cases e <;> rfl

namespace Artifact

variable {w : Workspace} {schemaName : LooseText} {markdown base : Path} {paths : ArtifactPaths}
  {report : Report}

theorem hasRejection_previousFigures : hasRejection (previousFigures w markdown).2 = false := by
  unfold previousFigures
  split
  · rfl
  · rfl
  · split
    · rfl
    · exact hasRejection_mapError fun _ => rfl

theorem hasRejection_rewriteMarkdown :
    hasRejection (rewriteMarkdown w schemaName markdown report).result = false := by
  have hFigures : hasRejection (previousFigures w markdown).2 = false :=
    hasRejection_previousFigures
  unfold rewriteMarkdown
  split
  · rename_i notices e hPrevious
    rwa [hPrevious] at hFigures
  · split
    · rfl
    · split
      · exact isRejection_ofWrite _
      · rfl

theorem hasRejection_regenerateOne :
    hasRejection (regenerateOne w schemaName paths).result = false := by
  unfold regenerateOne
  split
  · rfl
  · rfl
  · split
    · rfl
    · exact hasRejection_rewriteMarkdown

theorem hasRejection_bind {α β : Type} {first : Outcome α} {next : Workspace → α → Outcome β}
    (hFirst : hasRejection first.result = false)
    (hNext : ∀ w a, hasRejection (next w a).result = false) :
    hasRejection (first.bind next).result = false := by
  unfold Outcome.bind
  split
  · rename_i e hFailed
    rwa [hFailed] at hFirst
  · exact hNext _ _

theorem hasRejection_map {α β : Type} {f : α → β} {outcome : Outcome α} :
    hasRejection (outcome.map f).result = hasRejection outcome.result := by
  unfold Outcome.map
  cases outcome.result <;> rfl

theorem hasRejection_regenerateAll {names : List String} :
    hasRejection (regenerateAll w schemaName base names).result = false := by
  induction names generalizing w with
  | nil => rfl
  | cons name rest ih =>
    refine hasRejection_bind hasRejection_regenerateOne fun w path? => ?_
    rw [hasRejection_map]
    exact ih

theorem hasRejection_regenerate :
    hasRejection (regenerate w schemaName base).result = false := by
  unfold regenerate
  split
  · rfl
  · rfl
  · split
    · rfl
    · exact hasRejection_regenerateAll

end Artifact

theorem Settings.hasRejection_estimate {settings : Settings} {pricing : Pricing}
    {usage : TokenUsage} (h : settings.pricing = .ok pricing) :
    hasRejection (settings.estimate usage) = false := by
  rw [estimate_of_pricing h]
  exact hasRejection_mapError fun _ => rfl

namespace Command

variable {w : Workspace} {settings : Settings} {report : Report} {schemaName file : String}
  {directory : Option String} {usage : TokenUsage} {notices : List Notice} {code : Nat}
  {markup : String} {document : LooseText} {target : Option Path}

theorem priced_eq : priced settings report schemaName usage = settings.estimate usage >>=
    fun cost => (Markdown.document report schemaName usage (.exact cost)).mapError .figure := by
  unfold priced Settings.estimate
  rw [bind_assoc]

theorem isRejection_exitWithLine :
    (exitWithLine w notices code markup).ending.isRejection = false := by
  unfold exitWithLine
  cases Markup.plain markup <;> rfl

theorem isRejection_withSchema {next : Schema.Extraction → List Notice → CommandOutcome}
    (h : ∀ extraction notices, (next extraction notices).ending.isRejection = false) :
    (withSchema w settings file directory next).ending.isRejection = false := by
  unfold withSchema
  dsimp only
  cases (Schema.load w (Settings.choose directory settings.schemasDirectory) file).result with
  | error failure => exact isRejection_exitWithLine
  | ok extraction => exact h extraction _

theorem isRejection_deliver : (deliver w document target).ending.isRejection = false := by
  unfold deliver
  cases target with
  | none => cases document.plain <;> rfl
  | some output =>
    dsimp only
    obtain ⟨made, _ | _⟩ := w.makeDirectories output.parent
    · rfl
    · dsimp only
      obtain ⟨w', _ | _⟩ := made.writeText output document
      · exact isRejection_ofWrite _
      · exact isRejection_exitWithLine

theorem hasRejection_priced {pricing : Pricing} (h : settings.pricing = .ok pricing) :
    hasRejection (priced settings report schemaName usage) = false := by
  have hEstimate : hasRejection (settings.estimate usage) = false :=
    Settings.hasRejection_estimate h
  rw [priced_eq]
  cases hCost : settings.estimate usage with
  | error e => rwa [hCost] at hEstimate
  | ok cost => exact hasRejection_mapError fun _ => rfl

theorem isRejection_renderArtifact {pricing : Pricing} {artifact : Path}
    (h : settings.pricing = .ok pricing) :
    (renderArtifact w settings artifact schemaName target usage).ending.isRejection = false := by
  unfold renderArtifact
  cases Artifact.load w artifact with
  | error failure =>
    cases failure with
    | rejected rejection => exact isRejection_exitWithLine
    | _ => rfl
  | ok report =>
    have hPriced : hasRejection (priced settings report schemaName usage) = false :=
      hasRejection_priced h
    dsimp only
    split
    · rename_i failure hFailed
      rwa [hFailed] at hPriced
    · exact isRejection_deliver

/-- Where the settings give prices, no command fails with the refusal of a record. -/
theorem isRejection_run {pricing : Pricing} (h : settings.pricing = .ok pricing)
    (command : Command) : (run w settings command).ending.isRejection = false := by
  unfold run
  cases command with
  | schema file directory inner => exact isRejection_withSchema fun _ _ => rfl
  | prompt file directory => exact isRejection_withSchema fun _ _ => rfl
  | render artifact schemaName output input tokens =>
    dsimp only
    split
    · exact isRejection_renderArtifact h
    · rfl
  | regenerate file directory output =>
    dsimp only
    split
    · exact isRejection_exitWithLine
    · refine isRejection_withSchema fun extraction _ => ?_
      have hRun (base : Path) :
          hasRejection (Artifact.regenerate w extraction.name base).result = false :=
        Artifact.hasRejection_regenerate
      split
      · rename_i failure hFailed
        have hNone := hRun (.ofString (Settings.choose output settings.outputBaseDirectory))
        rwa [hFailed] at hNone
      · rfl

/-- Where the settings give no prices, an artifact that can be loaded cannot be rendered. -/
theorem run_render_of_rejection {rejection : Rejection} {artifact : Path} {input tokens : Nat}
    (h : settings.pricing = .error rejection) (hLoad : Artifact.load w artifact = .ok report) :
    run w settings (.render artifact schemaName target input tokens) =
      ⟨w, [], .failed (.rejected rejection)⟩ := by
  obtain ⟨bytes, hRead⟩ := Artifact.exists_read?_of_load hLoad
  have hFile := Workspace.readBytes_eq_ok_iff.2 (Workspace.read?_eq_some_iff.1 hRead)
  have hPriced : priced settings report schemaName (.ofInputOutput input tokens) =
      .error (.rejected rejection) := by
    rw [priced_eq, Settings.estimate_of_rejection h]
    rfl
  rw [run_render_of_file hFile, renderArtifact, hLoad]
  simp only [hPriced]

end Command

namespace Settings

/-- What comes of settings that load. If what is given for both rates is a price, these are the
prices, and neither an estimate nor a command is refused for them; otherwise every estimate and
every rendering of an artifact is. -/
theorem pricing_of_load {environment : List (String × String)} {file : Option String}
    {settings : Settings} (h : load environment file = .ok settings) :
    IsRate standard.inputCostPerMillion (given? environment file "input_cost_per_million")
      settings.inputCostPerMillion ∧
    IsRate standard.outputCostPerMillion (given? environment file "output_cost_per_million")
      settings.outputCostPerMillion ∧
    (hasPrices environment file = true →
      settings.pricing = .ok ⟨settings.inputCostPerMillion, settings.outputCostPerMillion⟩ ∧
        (∀ usage, hasRejection (settings.estimate usage) = false) ∧
        ∀ w command, (Command.run w settings command).ending.isRejection = false) ∧
    (hasPrices environment file = false →
      ∃ rejection, settings.pricing = .error rejection ∧
        (∀ usage, settings.estimate usage = .error (.rejected rejection)) ∧
        ∀ w artifact report schemaName output input tokens,
          Artifact.load w artifact = .ok report →
            Command.run w settings (.render artifact schemaName output input tokens) =
              ⟨w, [], .failed (.rejected rejection)⟩) := by
  refine ⟨isRate_input h, isRate_output h, ?_⟩
  rcases pricing_cases h with ⟨hPrices, hPricing⟩ | ⟨hRefused, rejection, hPricing⟩
  · constructor
    · intro _
      exact ⟨hPricing, fun _ => hasRejection_estimate hPricing,
        fun _ command => Command.isRejection_run hPricing command⟩
    · intro hNone
      rw [hPrices] at hNone
      cases hNone
  · constructor
    · intro hBoth
      rw [hRefused] at hBoth
      cases hBoth
    · intro _
      exact ⟨rejection, hPricing, fun _ => estimate_of_rejection hPricing,
        fun _ _ _ _ _ _ _ hLoad => Command.run_render_of_rejection hPricing hLoad⟩

/-- One rate in the environment and one in the file. -/
theorem pricing_of_load_both : ∃ settings,
    load [("INPUT_COST_PER_MILLION", " 3.5 ")] (some "output_cost_per_million=1_0\n") =
        .ok settings ∧
      settings.pricing = .ok ⟨settings.inputCostPerMillion, settings.outputCostPerMillion⟩ := by
  have hOk :
      (load [("INPUT_COST_PER_MILLION", " 3.5 ")] (some "output_cost_per_million=1_0\n")).isOk =
          true ∧
        hasPrices [("INPUT_COST_PER_MILLION", " 3.5 ")] (some "output_cost_per_million=1_0\n") =
          true := by
    decide +kernel
  have hLoad := Except.eq_ok_of_isOk hOk.1 standard
  obtain ⟨-, -, hPrices, -⟩ := pricing_of_load hLoad
  exact ⟨_, hLoad, (hPrices hOk.2).1⟩

/-- A negative rate loads, and there are no prices. -/
theorem not_pricing_negative : ∃ settings,
    load [("INPUT_COST_PER_MILLION", "-1")] none = .ok settings ∧
      ∀ pricing, settings.pricing ≠ .ok pricing := by
  have hOk : (load [("INPUT_COST_PER_MILLION", "-1")] none).isOk = true ∧
      ((load [("INPUT_COST_PER_MILLION", "-1")] none).toOption.getD standard).pricing.isOk =
        false := by
    decide +kernel
  obtain ⟨hLoad, hRefused⟩ := hOk
  refine ⟨_, Except.eq_ok_of_isOk hLoad standard, fun pricing hPricing => ?_⟩
  rw [hPricing] at hRefused
  cases hRefused

end Settings

end ReportPress
