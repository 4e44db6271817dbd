import ReportPress.Proofs.Artifact.Load
import ReportPress.Proofs.Artifact.Save
import ReportPress.Proofs.Markdown.Finite
import ReportPress.Proofs.Markdown.Statistics

/-!
The two artifacts that saving writes. The JSON artifact of a report that keeps the limits on what is
read gives the report back with null in the place of every number that is not finite, so its
Markdown is the one beside it if every number that is shown is finite, and need not be otherwise.
Main statement: `document_load_save`.
-/

namespace ReportPress.Artifact

section

variable {w : Workspace} {base : Path} {report : Report} {name : String} {schemaName : LooseText}
  {usage : TokenUsage} {cost : Cost} {paths : ArtifactPaths}

theorem load_save (hAccepted : report.IsAccepted) (hReadable : report.IsReadable)
    (hSaved : (save w base report name schemaName usage cost).result = .ok paths) :
    load (save w base report name schemaName usage cost).workspace paths.json =
      .ok report.finite := by
  obtain ⟨-, text, -, hText, -, hJson, -⟩ := readBytes_save hSaved
  exact load_of_readBytes hAccepted.isKept hReadable hText hJson

theorem exists_load_save_iff (hAccepted : report.IsAccepted)
    (hSaved : (save w base report name schemaName usage cost).result = .ok paths) :
    (∃ loaded, load (save w base report name schemaName usage cost).workspace paths.json =
      .ok loaded) ↔ report.IsReadable := by
  obtain ⟨-, text, -, hText, -, hJson, -⟩ := readBytes_save hSaved
  exact exists_load_iff hAccepted.isKept hText hJson

/-- The JSON artifact that is saved can be loaded exactly if the report keeps the limits on what is
read, and the Markdown of the report that it holds is the Markdown artifact, if every number that is
shown is finite. -/
theorem document_load_save (hAccepted : report.IsAccepted)
    (hSaved : (save w base report name schemaName usage cost).result = .ok paths) :
    ((∃ loaded, load (save w base report name schemaName usage cost).workspace paths.json =
      .ok loaded) ↔ report.IsReadable) ∧
    (report.IsFiniteWhereShown → ∀ loaded,
      load (save w base report name schemaName usage cost).workspace paths.json = .ok loaded →
        ∃ document : String, Markdown.document loaded schemaName usage cost = .ok document ∧
          (save w base report name schemaName usage cost).workspace.readBytes paths.markdown =
            .ok (Text.Utf8.encode document)) := by
  have hLoads := exists_load_save_iff hAccepted hSaved
  refine ⟨hLoads, fun hFinite loaded hLoaded => ?_⟩
  obtain rfl : report.finite = loaded :=
    Except.ok.inj ((load_save hAccepted (hLoads.1 ⟨loaded, hLoaded⟩) hSaved).symm.trans hLoaded)
  obtain ⟨-, -, document, -, hDocument, -, hMarkdown⟩ := readBytes_save hSaved
  refine ⟨document, ?_, hMarkdown⟩
  rw [Markdown.document_finite hFinite, hDocument]

end

/-- Behind the same figures the same Markdown has the same body. -/
theorem joinLines_bodyLines?_eq {report other : Report} {schemaName document : String}
    {usage : TokenUsage} {cost : Cost}
    (h : Markdown.document report schemaName usage cost = .ok document)
    (h' : Markdown.document other schemaName usage cost = .ok document) :
    (Markdown.bodyLines? report).map Text.joinLines =
      (Markdown.bodyLines? other).map Text.joinLines := by
  obtain ⟨-, amount, body, hAmount, hBody, hText⟩ := Statistics.document_eq_ok_iff.1 h
  obtain ⟨-, amount', body', hAmount', hBody', hText'⟩ := Statistics.document_eq_ok_iff.1 h'
  obtain rfl : amount = amount' := Except.ok.inj (hAmount.symm.trans hAmount')
  have hSame := hText.trans hText'.symm
  rw [Statistics.tableLines_ofString, ← List.map_append, ← List.map_append,
    LooseText.joinLines_ofString, LooseText.joinLines_ofString, LooseText.ofString_inj] at hSame
  have hChars := congrArg String.toList hSame
  rw [Statistics.toList_joinLines_append _ (Markdown.ne_nil_of_bodyLines? hBody),
    Statistics.toList_joinLines_append _ (Markdown.ne_nil_of_bodyLines? hBody')] at hChars
  rw [hBody, hBody', Option.map_some, Option.map_some,
    String.toList_inj.1 (List.append_cancel_left hChars)]

/-- The first page of a report with a not-a-number beside its fields. -/
def quotedPage : Members := [("rating", .str "Buy"), ("source", .float .nan)]

/-- The report of the page. -/
def quoted : Report :=
  ⟨some ⟨fun field => field.field.value? quotedPage, none, none, none, [("source", .float .nan)]⟩,
    none, []⟩

theorem isAccepted_quoted : quoted.IsAccepted := by
  have hCheck : Report.check (.obj [("firstPage", .obj quotedPage)]) = .ok quoted := rfl
  refine .data _ ?_ hCheck
  simp only [quotedPage, Json.throughout_obj_iff, Json.HasDistinctKeys, Members.keys,
    List.forall_mem_cons]
  exact ⟨by decide, ⟨by decide, Json.distinct_of_parts_nil rfl, Json.distinct_of_parts_nil rfl,
    by simp⟩, by simp⟩

theorem isFiniteWhereShown_quoted : quoted.IsFiniteWhereShown := by
  have hShown : ∀ value ∈ quoted.page.shownValues, value = .null ∨ value = .str "Buy" := by
    have hValues : quoted.page.shownValues = [.null, .null, .null, .null, .null, .null, .null,
        .str "Buy", .null, .null, .null, .null] := rfl
    rw [hValues]
    simp
  intro value hValue
  rcases hShown value hValue with rfl | rfl <;>
    exact (Json.throughout_single_iff rfl).2 trivial

/-- A number that is not shown makes no difference. -/
theorem document_load_save_quoted : ∃ paths loaded, ∃ document : String,
    (savedAlone quoted).result = .ok paths ∧
      load (savedAlone quoted).workspace paths.json = .ok loaded ∧
        Markdown.document loaded "default" .zero (.whole 0) = .ok document ∧
          (savedAlone quoted).workspace.readBytes paths.markdown =
            .ok (Text.Utf8.encode document) := by
  have hOk : (savedAlone quoted).result.isOk = true := by decide +kernel
  obtain ⟨paths, hSaved⟩ := Except.exists_of_isOk hOk
  obtain ⟨hLoads, hAgree⟩ := document_load_save isAccepted_quoted hSaved
  obtain ⟨loaded, hLoaded⟩ := hLoads.2 (by decide +kernel)
  obtain ⟨document, hDocument⟩ := hAgree isFiniteWhereShown_quoted loaded hLoaded
  exact ⟨paths, loaded, document, hSaved, hLoaded, hDocument⟩

/-- The text of a report with an infinite price. -/
def unboundedText : String := "\x7b\"firstPage\": \x7b\"targetPrice\": 1e999\x7d\x7d"

theorem exists_unbounded : ∃ report paths, Report.ofText unboundedText = .ok report ∧
    (savedAlone report).result = .ok paths ∧ report.IsReadable ∧ report.finite.IsShowable ∧
      (Markdown.bodyLines? report.finite).map Text.joinLines ≠
        (Markdown.bodyLines? report).map Text.joinLines := by
  have hRead : (Report.ofText unboundedText).toOption.any (fun report =>
      (savedAlone report).result.isOk && decide (report.IsReadable ∧ report.finite.IsShowable ∧
        (Markdown.bodyLines? report.finite).map Text.joinLines ≠
          (Markdown.bodyLines? report).map Text.joinLines)) = true := by
    decide +kernel
  cases hReport : Report.ofText unboundedText with
  | error e =>
    rw [hReport] at hRead
    cases hRead
  | ok report =>
    rw [hReport] at hRead
    obtain ⟨hOk, hBodies⟩ := Bool.and_eq_true_iff.1 hRead
    obtain ⟨paths, hSaved⟩ := Except.exists_of_isOk hOk
    exact ⟨report, paths, rfl, hSaved, of_decide_eq_true hBodies⟩

/-- An infinite price is shown in the Markdown that is saved and not in that of the report that is
loaded. -/
theorem not_document_load_unbounded : ∃ report paths loaded, ∃ document : String,
    Report.ofText unboundedText = .ok report ∧ (savedAlone report).result = .ok paths ∧
      load (savedAlone report).workspace paths.json = .ok loaded ∧
        Markdown.document loaded "default" .zero (.whole 0) = .ok document ∧
          (savedAlone report).workspace.readBytes paths.markdown ≠
            .ok (Text.Utf8.encode document) := by
  obtain ⟨report, paths, hReport, hSaved, hReadable, hShowable, hBodies⟩ := exists_unbounded
  obtain ⟨-, -, saved, -, hDocument, -, hMarkdown⟩ := readBytes_save hSaved
  obtain ⟨document, hLoaded⟩ := Statistics.exists_document_ofString "default"
    Statistics.isWritable_zero Statistics.costText_zero hShowable
  -- the same figures stand in front of both bodies, so the documents differ as the bodies do
  refine ⟨report, paths, report.finite, document, hReport, hSaved,
    load_save (.text _ hReport) hReadable hSaved, hLoaded, ?_⟩
  intro hSame
  have hTexts : saved = document := by
    have hDecoded := congrArg Text.Utf8.decode (Except.ok.inj (hMarkdown.symm.trans hSame))
    simpa using hDecoded
  subst hTexts
  exact hBodies (joinLines_bodyLines?_eq hLoaded hDocument)

end ReportPress.Artifact
