import ReportPress.Proofs.Artifact.Regenerate
import ReportPress.Proofs.Artifact.Save
import ReportPress.Proofs.Markdown.Cost

/-!
Statistics over time. After a report was saved, its JSON artifact may be overwritten with anything
and the documents regenerated in any order; the Markdown artifact always holds the table that was
written first. Main statement: `statistics_kept`, the figures of the first run are recovered after
every sequence of such events.
-/

namespace ReportPress

namespace Statistics

/-- The text of the cost in a document: what stands between its label and the next asterisk. -/
def costCell? (document : String) : Option String :=
  (figure? costLabel.toList (· != '*') document.toList).map String.ofList

end Statistics

namespace Artifact

open Statistics

/-- What can happen to the artifacts of a document once they are there. -/
inductive Event
  | overwritten (bytes : List UInt8)
  | regenerated (schemaName : String)

/-- The event names no schema whose name has a pipe. -/
def Event.IsPipeFree : Event → Prop
  | .overwritten _ => True
  | .regenerated schemaName => '|' ∉ schemaName.toList

/-- The workspace after an event: the JSON artifact of a document overwritten, or all documents
regenerated, whether that succeeds or ends on the way. -/
def Event.apply (base : Path) (name : String) (w : Workspace) : Event → Workspace
  | .overwritten bytes => (w.writeBytes (ArtifactPaths.of base name).json bytes).toOption.getD w
  | .regenerated schemaName => (regenerate w schemaName base).workspace

/-- The workspace after events, one after the other. -/
def run (base : Path) (name : String) (w : Workspace) (events : List Event) : Workspace :=
  events.foldl (Event.apply base name) w

/-- The file holds a table of the counts and the amount, with any text behind it. -/
def HoldsTable (markdown : Path) (usage : TokenUsage) (amount : List Char) (w : Workspace) : Prop :=
  ∃ schemaName rest, '|' ∉ schemaName ∧ w.readBytes markdown =
    .ok (Text.Utf8.encode (String.ofList (tableChars schemaName usage amount rest)))

section

variable {w : Workspace} {markdown : Path} {usage : TokenUsage} {amount : List Char}

theorem HoldsTable.readText (h : HoldsTable markdown usage amount w) (hAmount : '\r' ∉ amount) :
    ∃ schemaName rest, '|' ∉ schemaName ∧
      w.readText markdown = .ok (String.ofList (tableChars schemaName usage amount rest)) := by
  obtain ⟨schemaName, rest, hSchema, hBytes⟩ := h
  refine ⟨Text.unifyLineEnds schemaName, Text.unifyLineEnds rest,
    fun hMem => hSchema (Text.mem_of_mem_unifyLineEnds hMem (by decide)), ?_⟩
  rw [Workspace.readText, hBytes]
  simp only [Text.Utf8.decode_encode, String.toList_ofList, unifyLineEnds_tableChars hAmount]

theorem HoldsTable.figuresIn (h : HoldsTable markdown usage amount w)
    (hUsage : IsWritable usage) (hAmount : IsAmount amount) :
    Artifact.figuresIn w markdown = .ok (usage, costOf amount) := by
  have hReturn : '\r' ∉ amount := fun hMem => absurd (hAmount.isCostPart _ hMem) (by decide)
  obtain ⟨schemaName, rest, hSchema, hText⟩ := h.readText hReturn
  simp only [Artifact.figuresIn, hText, recover_table hSchema hUsage hAmount.isCostPart
    hAmount.ne_nil]

end

theorem holdsTable_of_document {w : Workspace} {markdown : Path} {report : Report}
    {schemaName document amount : String} {usage : TokenUsage} {cost : Cost}
    (hSchema : '|' ∉ schemaName.toList) (hAmount : costText cost = .ok amount)
    (hDocument : Markdown.document report schemaName usage cost = .ok document)
    (hWritten : w.readBytes markdown = .ok (Text.Utf8.encode document)) :
    IsWritable usage ∧ HoldsTable markdown usage amount.toList w := by
  obtain ⟨hUsage, rest, hText⟩ := document_eq hAmount hDocument
  refine ⟨hUsage, schemaName.toList, rest, hSchema, ?_⟩
  rw [hWritten, ← hText, String.ofList_toList]

theorem figuresIn_save {w : Workspace} {base : Path} {report : Report}
    {name schemaName amount : String} {usage : TokenUsage} {cost : Cost}
    (hSchema : '|' ∉ schemaName.toList) (hText : costText cost = .ok amount)
    (hAmount : IsAmount amount.toList)
    (hSaved : (save w base report name schemaName usage cost).result.isOk = true) :
    Artifact.figuresIn (save w base report name schemaName usage cost).workspace
      (ArtifactPaths.of base name).markdown = .ok (usage, costOf amount.toList) := by
  obtain ⟨paths, hResult⟩ := Except.exists_of_isOk hSaved
  obtain ⟨rfl, -, document, -, hDocument, -, hRead⟩ := readBytes_save hResult
  obtain ⟨hUsage, hTable⟩ := holdsTable_of_document hSchema hText hDocument hRead
  exact hTable.figuresIn hUsage hAmount

section

variable {base : Path} {name schemaName : String} {usage : TokenUsage} {amount : List Char}
  {w : Workspace} (hName : Path.IsComponent name)

include hName

omit hName in
/-- Regenerating a document whose file holds a table leaves a table of the same figures. -/
theorem holdsTable_regenerateOne (hUsage : IsWritable usage) (hAmount : IsAmount amount)
    (hSchema : '|' ∉ schemaName.toList)
    (h : HoldsTable (ArtifactPaths.of base name).markdown usage amount w) :
    HoldsTable (ArtifactPaths.of base name).markdown usage amount
      (regenerateOne w schemaName (.of base name)).workspace := by
  have hStep := regenerates_regenerateOne w schemaName (.of base name)
  generalize regenerateOne w schemaName (.of base name) = outcome at hStep ⊢
  cases hStep with
  | passedOver => exact h
  | failed => exact h
  | emptied _ hRendering hNotPlain =>
    exact absurd (hRendering.isPlain_iff.2 (LooseText.isPlain_ofString schemaName)) hNotPlain
  | written _ hRendering hWritten =>
    obtain ⟨report, found, cost, -, hFigures, hDocument⟩ := hRendering
    rw [h.figuresIn hUsage hAmount] at hFigures
    obtain ⟨rfl, rfl⟩ := Prod.mk.inj (Except.ok.inj hFigures)
    obtain ⟨_, _, -, hBytes⟩ := h
    have hRead := Workspace.readBytes_of_overwritten hBytes hWritten
    have hTable := (holdsTable_of_document hSchema hAmount.costText_costOf hDocument hRead).2
    rwa [String.toList_ofList] at hTable

theorem readBytes_regenerateOne {other : String} {bytes : List UInt8}
    (hOther : Workspace.isEntryName other = true) (hNe : other ≠ name)
    (hBytes : w.readBytes (ArtifactPaths.of base name).markdown = .ok bytes) :
    (regenerateOne w schemaName (.of base other)).workspace.readBytes
      (ArtifactPaths.of base name).markdown = .ok bytes := by
  have hStep := regenerates_regenerateOne w schemaName (.of base other)
  generalize regenerateOne w schemaName (.of base other) = outcome at hStep ⊢
  cases hStep with
  | passedOver => exact hBytes
  | failed => exact hBytes
  | emptied _ _ _ hWritten =>
    exact Workspace.readBytes_of_writeBytes_of_ne hBytes hWritten
      (ArtifactPaths.markdown_apart base hName hOther hNe)
  | written _ _ hWritten =>
    exact Workspace.readBytes_of_writeBytes_of_ne hBytes hWritten
      (ArtifactPaths.markdown_apart base hName hOther hNe)

theorem holdsTable_regenerateAll {names : List String}
    (hNames : ∀ other ∈ names, Workspace.isEntryName other = true) (hUsage : IsWritable usage)
    (hAmount : IsAmount amount) (hSchema : '|' ∉ schemaName.toList)
    (h : HoldsTable (ArtifactPaths.of base name).markdown usage amount w) :
    HoldsTable (ArtifactPaths.of base name).markdown usage amount
      (regenerateAll w schemaName base names).workspace := by
  induction names generalizing w with
  | nil => exact h
  | cons other rest ih =>
    have hFirst : HoldsTable (ArtifactPaths.of base name).markdown usage amount
        (regenerateOne w schemaName (.of base other)).workspace := by
      by_cases hSame : other = name
      · rw [hSame]
        exact holdsTable_regenerateOne hUsage hAmount hSchema h
      · obtain ⟨table, rest, hTable, hBytes⟩ := h
        exact ⟨table, rest, hTable,
          readBytes_regenerateOne hName (hNames other List.mem_cons_self) hSame hBytes⟩
    rw [regenerateAll, Outcome.bind]
    cases (regenerateOne w schemaName (.of base other)).result with
    | error e => exact hFirst
    | ok path? => exact ih (fun name hMem => hNames name (List.mem_cons_of_mem _ hMem)) hFirst

theorem holdsTable_apply {event : Event} (hEvent : event.IsPipeFree) (hUsage : IsWritable usage)
    (hAmount : IsAmount amount)
    (h : HoldsTable (ArtifactPaths.of base name).markdown usage amount w) :
    HoldsTable (ArtifactPaths.of base name).markdown usage amount
      (event.apply base name w) := by
  cases event with
  | overwritten bytes =>
    rw [Event.apply]
    cases hWritten : w.writeBytes (ArtifactPaths.of base name).json bytes with
    | error e => exact h
    | ok written =>
      obtain ⟨table, rest, hTable, hBytes⟩ := h
      exact ⟨table, rest, hTable, Workspace.readBytes_of_writeBytes_of_ne hBytes hWritten
        (ArtifactPaths.json_apart base hName)⟩
  | regenerated schemaName =>
    rw [Event.apply]
    rcases regenerate_cases w schemaName base with ⟨names, hNames, hRun⟩ | ⟨hSame, -⟩
    · rw [hRun]
      exact holdsTable_regenerateAll hName
        (fun other hOther => ((mem_documentNames_iff hNames).1 hOther).isName) hUsage hAmount
        hEvent h
    · rwa [hSame]

/-- Every sequence of events leaves a table of the same figures. -/
theorem holdsTable_run {events : List Event} (hEvents : ∀ event ∈ events, event.IsPipeFree)
    (hUsage : IsWritable usage) (hAmount : IsAmount amount)
    (h : HoldsTable (ArtifactPaths.of base name).markdown usage amount w) :
    HoldsTable (ArtifactPaths.of base name).markdown usage amount
      (run base name w events) := by
  induction events generalizing w with
  | nil => exact h
  | cons event events ih =>
    exact ih (fun event hMem => hEvents event (List.mem_cons_of_mem _ hMem))
      (holdsTable_apply hName (hEvents event List.mem_cons_self) hUsage hAmount h)

/-- The figures of the first run are recovered after every sequence of events: the counts, a cost
that is written as the first one was, and its text. -/
theorem statistics_kept {report : Report} {amount : String} {cost : Cost} {paths : ArtifactPaths}
    {events : List Event} (hSchema : '|' ∉ schemaName.toList) (hFinite : cost.isFinite = true)
    (hAmount : costText cost = .ok amount) (hSign : '-' ∉ amount.toList)
    (hSaved : (save w base report name schemaName usage cost).result = .ok paths)
    (hEvents : ∀ event ∈ events, event.IsPipeFree) :
    ∃ text found,
      (run base name (save w base report name schemaName usage cost).workspace events).readText
          paths.markdown = .ok text ∧
        recover text = .ok (usage, found) ∧ costText (.exact found) = .ok amount ∧
          costCell? text = some amount := by
  obtain ⟨rfl, -, document, -, hDocument, -, hRead⟩ := readBytes_save hSaved
  have hChars := isAmount_of_costText hFinite hAmount hSign
  have hReturn : '\r' ∉ amount.toList := fun hMem =>
    absurd (hChars.isCostPart _ hMem) (by decide)
  have hStar : ∀ c ∈ amount.toList, (c != '*') = true := by
    intro c hc
    rw [bne_iff_ne]
    rintro rfl
    exact absurd (hChars.isCostPart _ hc) (by decide)
  obtain ⟨hUsage, hTable⟩ := holdsTable_of_document hSchema hAmount hDocument hRead
  obtain ⟨table, rest, hPipe, hFinal⟩ :=
    (holdsTable_run hName hEvents hUsage hChars hTable).readText hReturn
  have hCost := hChars.costText_costOf
  rw [String.ofList_toList] at hCost
  have hCell := @figure?_cost _ usage _ rest hPipe _ hStar hChars.ne_nil rfl
  refine ⟨_, _, hFinal, recover_table hPipe hUsage hChars.isCostPart hChars.ne_nil, hCost, ?_⟩
  rw [costCell?, String.toList_ofList, hCell, Option.map_some, String.ofList_toList]

end

/-- A report whose text looks like a row of statistics. -/
def imitation : Report :=
  ⟨none, some [⟨.known .bodyText, some (some "| Input Tokens | 7 |"), none, none, []⟩], []⟩

/-- The report saved in an empty workspace. -/
def savedImitation : Outcome ArtifactPaths :=
  save .empty ⟨.here, ["out"]⟩ imitation "report" "default" ⟨1234567, 890, 1235457⟩ (.whole 3)

theorem exists_savedImitation : ∃ paths, savedImitation.result = .ok paths := by
  have hOk : savedImitation.result.isOk = true := by decide +kernel
  exact Except.exists_of_isOk hOk

/-- The text that looks like a row of statistics is not taken for one. -/
theorem statistics_kept_imitation : ∃ paths text found,
    (run ⟨.here, ["out"]⟩ "report" savedImitation.workspace
      [.overwritten [0x7B], .regenerated "Input Tokens", .regenerated "default"]).readText
        (ArtifactPaths.markdown paths) = .ok text ∧
      recover text = .ok (⟨1234567, 890, 1235457⟩, found) ∧
        costText (.exact found) = .ok "3.0000" ∧ costCell? text = some "3.0000" := by
  obtain ⟨paths, hSaved⟩ := exists_savedImitation
  have hEvents : ∀ event ∈ [.overwritten [0x7B], .regenerated "Input Tokens",
      .regenerated "default"], Event.IsPipeFree event := by
    simp [Event.IsPipeFree]
  exact ⟨paths, statistics_kept (by decide) (by decide) rfl (by decide +kernel) (by decide) hSaved
    hEvents⟩

end Artifact

end ReportPress
