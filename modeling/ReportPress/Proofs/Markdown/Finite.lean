import ReportPress.Proofs.Markdown.Shown
import ReportPress.Proofs.Report.RoundTrip

/-!
What the Markdown of a report shows of its numbers. A number that is not finite is null in the JSON
artifact, and this makes a difference only in the values of the first page that are shown: blocks
hold no numbers besides whole ones, and what was given beyond the fields is left out. Main
statement: `Markdown.document_finite`.
-/

namespace ReportPress

/-- What is not shown for want of content has no number in it but zero. -/
theorem Json.finite_of_not_isTruthy {value : Json} (h : value.isTruthy = false) :
    value.finite = value := by
  cases value with
  | float x =>
    cases x <;> simp_all [isTruthy, Binary64.isZero, finite, Binary64.isFinite]
  | arr items =>
    cases items with
    | nil => rfl
    | cons item rest => simp [isTruthy] at h
  | obj members =>
    cases members with
    | nil => rfl
    | cons member rest => simp [isTruthy] at h
  | _ => rfl

theorem Json.finite_getD (value : Option Json) :
    (value.map Json.finite).getD .null = (value.getD .null).finite := by
  cases value <;> rfl

namespace FirstPage

theorem value_finite (page : FirstPage) (field : PageField) :
    page.finite.value field = (page.value field).finite :=
  Json.finite_getD (page.value? field)

end FirstPage

/-- Every number in a value that is shown is finite. -/
def Report.IsFiniteWhereShown (report : Report) : Prop :=
  ∀ value ∈ report.page.shownValues, Json.Throughout Json.IsFiniteNumber value

namespace Markdown

section

variable {α β : Type}

theorem given_map (f : α → β) (items : Option (Option (List α))) :
    given (items.map (Option.map (List.map f))) = (given items).map f := by
  rcases items with _ | _ | items <;> rfl

theorem sectionLines?_map {f : α → α} {heading : String} {items : List α}
    {lines? : α → Option (List String)} {closing : List String}
    (h : ∀ item ∈ items, lines? (f item) = lines? item) :
    sectionLines? heading (items.map f) lines? closing =
      sectionLines? heading items lines? closing := by
  rw [sectionLines?, sectionLines?, List.isEmpty_map, List.mapM_map]
  exact congrArg _ (congrArg _ (mapM_congr h))

/-- Changed blocks have the lines that they had, if each has its lines and its page number. -/
theorem blocksLines?_map {f : ContentBlock → ContentBlock}
    (hLines : ∀ block, blockLines (f block) = blockLines block)
    (hPage : ∀ block, (f block).page? = block.page?) (blocks : List ContentBlock) :
    blocksLines? (blocks.map f) = blocksLines? blocks := by
  have hFrom (current : Option Int) :
      blocksLinesFrom? current (blocks.map f) = blocksLinesFrom? current blocks := by
    induction blocks generalizing current with
    | nil => rfl
    | cons block rest ih =>
      rw [List.map_cons, blocksLinesFrom?, blocksLinesFrom?, hLines, hPage, ih]
  exact hFrom none

/-- The document of a report depends on the lines of its first page and of its blocks alone. -/
theorem document_eq_of_lines {report other : Report}
    (hPage : firstPageLines? report.page = firstPageLines? other.page)
    (hBlocks : blocksLines? report.blocks = blocksLines? other.blocks) (schemaName : LooseText)
    (usage : TokenUsage) (cost : Cost) :
    document report schemaName usage cost = document other schemaName usage cost := by
  have hBody : bodyLines? report = bodyLines? other := by
    rw [bodyLines?, hPage, hBlocks, bodyLines?]
  rw [document, hBody, document]

end

section

variable {page : FirstPage}

theorem displayTitle?_finite (h : page.titleValue.finite = page.titleValue) :
    page.finite.displayTitle? = page.displayTitle? := by
  unfold FirstPage.displayTitle?
  unfold FirstPage.titleValue at h
  simp only [FirstPage.value_finite]
  -- a report title without content has no number in it, so the choice of the title stays
  cases hTruthy : (page.value .reportTitle).isTruthy with
  | true =>
    have hTitle : (page.value .reportTitle).finite = page.value .reportTitle := by
      simpa [hTruthy] using h
    simp [hTruthy, hTitle]
  | false =>
    have hTitle : (page.value .title).finite = page.value .title := by simpa [hTruthy] using h
    simp [Json.finite_of_not_isTruthy hTruthy, hTruthy, hTitle]

theorem subtitleLines?_finite
    (h : (page.value .reportSubTitle).finite = page.value .reportSubTitle) :
    subtitleLines? page.finite = subtitleLines? page := by
  rw [subtitleLines?, FirstPage.value_finite, h, subtitleLines?]

theorem metadataLines?_finite
    (h : ∀ field ∈ PageField.metadata, (page.value field).finite = page.value field) :
    metadataLines? page.finite = metadataLines? page := by
  have hRows : page.finite.metadataRows? = page.metadataRows? := by
    have hRow : ∀ field ∈ PageField.metadata,
        page.finite.metadataRow? field = page.metadataRow? field := by
      intro field hField
      rw [FirstPage.metadataRow?, FirstPage.value_finite, h field hField, FirstPage.metadataRow?]
    rw [FirstPage.metadataRows?, mapM_congr hRow, FirstPage.metadataRows?]
  rw [metadataLines?, hRows, metadataLines?]

theorem authorLines?_finite {author : Author}
    (h : ∀ value ∈ author.shownValues, value.finite = value) :
    authorLines? author.finite = authorLines? author := by
  simp only [Author.shownValues, List.forall_mem_cons] at h
  obtain ⟨hName, hEmail, hPhone, -⟩ := h
  simp only [authorLines?, detailLine?, Author.finite, Json.finite_getD, hName, hEmail, hPhone]

theorem summaryLines?_finite {paragraph : SummaryParagraph}
    (h : ∀ value ∈ paragraph.shownValues, value.finite = value) :
    summaryLines? paragraph.finite = summaryLines? paragraph := by
  simp only [SummaryParagraph.shownValues, List.forall_mem_cons] at h
  obtain ⟨hHeading, hContent, -⟩ := h
  simp only [summaryLines?, headingLines?, SummaryParagraph.finite, Json.finite_getD, hHeading,
    hContent]

theorem firstPageLines?_finite (h : ∀ value ∈ page.shownValues, value.finite = value) :
    firstPageLines? page.finite = firstPageLines? page := by
  simp only [FirstPage.shownValues, List.forall_mem_append, List.forall_mem_cons,
    List.forall_mem_map] at h
  obtain ⟨⟨⟨⟨hTitle, hSubtitle, hMetadata⟩, hAuthors⟩, hPoints⟩, hParagraphs⟩ := h
  unfold firstPageLines?
  rw [displayTitle?_finite hTitle, subtitleLines?_finite hSubtitle, metadataLines?_finite hMetadata]
  have hAuthorLines : ∀ author ∈ given page.authors,
      authorLines? author.finite = authorLines? author :=
    fun author hAuthor => authorLines?_finite fun value hValue =>
      hAuthors value (List.mem_flatMap.2 ⟨author, hAuthor, hValue⟩)
  have hPointLines : ∀ point ∈ given page.bulletPoints, pointLine? point.finite = pointLine? point :=
    fun point hPoint => by rw [hPoints point hPoint]
  have hParagraphLines : ∀ paragraph ∈ given page.summaryParagraphs,
      summaryLines? paragraph.finite = summaryLines? paragraph :=
    fun paragraph hParagraph => summaryLines?_finite fun value hValue =>
      hParagraphs value (List.mem_flatMap.2 ⟨paragraph, hParagraph, hValue⟩)
  simp only [FirstPage.finite, given_map]
  rw [sectionLines?_map hAuthorLines, sectionLines?_map hPointLines,
    sectionLines?_map hParagraphLines]

end

theorem blockLines_finite (block : ContentBlock) : blockLines block.finite = blockLines block := by
  obtain ⟨style, text, table, pageNumber, extras⟩ := block
  rcases table with _ | _ | table <;> rfl

/-- Numbers that are not finite make no difference in the Markdown of a report that shows none. -/
theorem document_finite {report : Report} (h : report.IsFiniteWhereShown) (schemaName : LooseText)
    (usage : TokenUsage) (cost : Cost) :
    document report.finite schemaName usage cost = document report schemaName usage cost := by
  have hPage : report.finite.page = report.page.finite := by
    obtain ⟨firstPage, blocks, extras⟩ := report
    cases firstPage <;> rfl
  have hBlocks : report.finite.blocks = report.blocks.map ContentBlock.finite := by
    obtain ⟨firstPage, blocks, extras⟩ := report
    cases blocks <;> rfl
  refine document_eq_of_lines ?_ ?_ schemaName usage cost
  · rw [hPage]
    exact firstPageLines?_finite fun value hValue => Json.finite_eq_self (h value hValue)
  · rw [hBlocks]
    exact blocksLines?_map blockLines_finite (fun _ => rfl) report.blocks

end Markdown

end ReportPress
