import ReportPress.Markdown.Document
import ReportPress.Proofs.Json.Shown
import ReportPress.Proofs.Report.Shape

/-!
What the Markdown of a report shows: values of its first page, and the page numbers of its blocks.
Only a whole number with too many digits among them keeps a report from being shown, and no report
that JSON text denotes holds one. Main statements: `Report.isShowable_of_isDenoted` and
`isSome_bodyLines?_iff`.
-/

namespace ReportPress

namespace Author

/-- The values of an author that are shown, null where they are not given. -/
def shownValues (author : Author) : List Json :=
  [author.name.getD .null, author.email.getD .null, author.phone.getD .null]

end Author

namespace SummaryParagraph

/-- The values of a summary paragraph that are shown, null where they are not given. -/
def shownValues (paragraph : SummaryParagraph) : List Json :=
  [paragraph.heading.getD .null, paragraph.content.getD .null]

end SummaryParagraph

namespace FirstPage

/-- The value that the title shows, unless it is a general one. -/
def titleValue (page : FirstPage) : Json :=
  if (page.value .reportTitle).isTruthy then page.value .reportTitle else page.value .title

/-- The values of a first page that are shown. -/
def shownValues (page : FirstPage) : List Json :=
  page.titleValue :: page.value .reportSubTitle :: PageField.metadata.map page.value ++
    (Markdown.given page.authors).flatMap Author.shownValues ++
    Markdown.given page.bulletPoints ++
    (Markdown.given page.summaryParagraphs).flatMap SummaryParagraph.shownValues

end FirstPage

namespace Report

/-- All whole numbers that are shown have few enough digits. -/
structure IsShowable (report : Report) : Prop where
  values : ∀ value ∈ report.page.shownValues, Json.Throughout Json.HasFewDigits value
  pages : ∀ block ∈ report.blocks, ∀ page ∈ block.page?, Text.isShort page = true

instance (report : Report) : Decidable report.IsShowable :=
  decidable_of_iff (_ ∧ _) ⟨fun h => ⟨h.1, h.2⟩, fun h => ⟨h.values, h.pages⟩⟩

end Report

/-! ### What is shown stands in the report -/

section

variable {p : Json → Prop} (hNull : p .null)
include hNull

theorem getD_null {value : Option Json} (h : ∀ given ∈ value, p given) : p (value.getD .null) := by
  cases value with
  | none => exact hNull
  | some given => exact h given rfl

theorem of_mem_slots {slots : List (Field × Option Json)} {others : List Json}
    (h : ∀ free ∈ slots.filterMap (·.2) ++ others, p free) :
    ∀ slot ∈ slots, p (slot.2.getD .null) :=
  fun slot hSlot => getD_null hNull fun given hGiven =>
    h given (List.mem_append_left _ (List.mem_filterMap.2 ⟨slot, hSlot, hGiven⟩))

theorem Author.of_mem_shownValues {author : Author} (h : ∀ free ∈ author.freeValues, p free) :
    ∀ value ∈ author.shownValues, p value := by
  have hSlots := of_mem_slots hNull h
  simp only [slots, List.forall_mem_cons] at hSlots
  simpa [shownValues] using hSlots

theorem SummaryParagraph.of_mem_shownValues {paragraph : SummaryParagraph}
    (h : ∀ free ∈ paragraph.freeValues, p free) : ∀ value ∈ paragraph.shownValues, p value := by
  have hSlots := of_mem_slots hNull h
  simp only [slots, List.forall_mem_cons] at hSlots
  simpa [shownValues] using hSlots

/-- What a first page shows is null or stands in it. -/
theorem FirstPage.of_mem_shownValues {page : FirstPage} (h : ∀ free ∈ page.freeValues, p free) :
    ∀ value ∈ page.shownValues, p value := by
  simp only [freeValues, List.forall_mem_append, List.forall_mem_flatMap] at h
  obtain ⟨⟨⟨⟨hFields, hAuthors⟩, hPoints⟩, hParagraphs⟩, -⟩ := h
  have hValue (field : PageField) : p (page.value field) :=
    getD_null hNull fun given hGiven =>
      hFields given (List.mem_filterMap.2 ⟨field, PageField.mem_all field, hGiven⟩)
  have hTitle : p page.titleValue := by
    rw [titleValue]
    split <;> exact hValue _
  simp only [shownValues, List.forall_mem_append, List.forall_mem_cons, List.forall_mem_map,
    List.forall_mem_flatMap]
  exact ⟨⟨⟨⟨hTitle, hValue _, fun field _ => hValue field⟩,
    fun author hAuthor => Author.of_mem_shownValues hNull (hAuthors author hAuthor)⟩, hPoints⟩,
    fun paragraph hMem => SummaryParagraph.of_mem_shownValues hNull (hParagraphs paragraph hMem)⟩

end

/-- A report can be shown if all whole numbers in it have few enough digits. -/
theorem Report.isShowable_of_hasFewDigits {report : Report}
    (h : Json.Throughout Json.HasFewDigits report.toJson) : report.IsShowable := by
  have hNull : Json.Throughout Json.HasFewDigits .null := (Json.throughout_single_iff rfl).2 trivial
  constructor
  · refine FirstPage.of_mem_shownValues hNull fun free hFree => h.of_inside ?_
    refine Report.inside_of_mem_freeValues (List.mem_append_left _ (List.mem_append_left _ ?_))
    cases hPage : report.firstPage with
    | none => simp [Report.page, hPage, FirstPage.empty, FirstPage.freeValues] at hFree
    | some page =>
      rw [Report.page, hPage] at hFree
      simpa using hFree
  · intro block hBlock page hPage
    have hInside := h.of_inside (Report.inside_of_page? hBlock hPage)
    exact decide_eq_true ((Json.throughout_single_iff rfl).1 hInside)

section

variable {value : Json} (hValue : value.IsDenoted)
include hValue

/-- A report can be shown if it was read from a value that JSON text denotes. -/
theorem Report.isShowable_of_isDenoted {report : Report} (hCheck : check value = .ok report) :
    report.IsShowable :=
  isShowable_of_hasFewDigits (isFaithful.hasFewDigits hValue hCheck)

end

namespace Markdown

section

variable {α : Type}

theorem isSome_sectionLines?_iff {heading : String} {items : List α}
    {lines? : α → Option (List String)} {closing : List String} :
    (sectionLines? heading items lines? closing).isSome ↔ ∀ item ∈ items, (lines? item).isSome := by
  cases items with
  | nil => simp [sectionLines?]
  | cons item rest =>
    rw [sectionLines?, if_neg (by simp), Option.isSome_map, isSome_mapM]

/-- What is only shown if it has content can be shown exactly if it can be written. -/
theorem isSome_contentLines?_iff {value : Json} {write : String → List String} :
    (contentLines? value write).isSome ↔ Json.Throughout Json.HasFewDigits value := by
  rw [contentLines?]
  split
  · rw [Option.isSome_map, Json.isSome_displayText?_iff]
  · rename_i hEmpty
    have hFew := Json.hasFewDigits_of_not_isTruthy (eq_false_of_ne_true hEmpty)
    exact ⟨fun _ => hFew, fun _ => rfl⟩

theorem isSome_authorLines?_iff {author : Author} : (authorLines? author).isSome ↔
    ∀ value ∈ author.shownValues, Json.Throughout Json.HasFewDigits value := by
  rw [Author.shownValues, List.forall_mem_cons, List.forall_mem_cons, List.forall_mem_singleton]
  exact isSome_bind_iff Json.isSome_displayText?_iff fun _ _ =>
    isSome_bind_iff isSome_contentLines?_iff fun _ _ =>
      isSome_bind_pure_iff isSome_contentLines?_iff

theorem isSome_summaryLines?_iff {paragraph : SummaryParagraph} :
    (summaryLines? paragraph).isSome ↔
      ∀ value ∈ paragraph.shownValues, Json.Throughout Json.HasFewDigits value := by
  rw [SummaryParagraph.shownValues, List.forall_mem_cons, List.forall_mem_singleton]
  exact isSome_bind_iff isSome_contentLines?_iff fun _ _ =>
    isSome_bind_pure_iff Json.isSome_displayText?_iff

theorem isSome_pointLine?_iff {point : Json} :
    (pointLine? point).isSome ↔ Json.Throughout Json.HasFewDigits point := by
  rw [pointLine?, Option.isSome_map, Json.isSome_displayText?_iff]

end

section

variable {page : FirstPage}

theorem isSome_displayTitle?_iff :
    page.displayTitle?.isSome ↔ Json.Throughout Json.HasFewDigits page.titleValue := by
  rw [FirstPage.displayTitle?, FirstPage.titleValue]
  split
  · exact Json.isSome_displayText?_iff
  · split
    · exact Json.isSome_displayText?_iff
    · rename_i hEmpty
      exact ⟨fun _ => Json.hasFewDigits_of_not_isTruthy (eq_false_of_ne_true hEmpty), fun _ => rfl⟩

theorem isSome_metadataRow?_iff {field : PageField} :
    (page.metadataRow? field).isSome ↔ Json.Throughout Json.HasFewDigits (page.value field) := by
  rw [FirstPage.metadataRow?]
  split
  · rename_i hNull
    rw [hNull, Json.throughout_single_iff rfl]
    exact ⟨fun _ => trivial, fun _ => rfl⟩
  · rw [Option.isSome_map, FirstPage.metadataText?, Option.isSome_map, Json.isSome_display?_iff]

theorem isSome_metadataLines?_iff : (metadataLines? page).isSome ↔
    ∀ field ∈ PageField.metadata, Json.Throughout Json.HasFewDigits (page.value field) := by
  rw [metadataLines?, Option.isSome_map, FirstPage.metadataRows?, Option.isSome_map, isSome_mapM]
  exact forall₂_congr fun _ _ => isSome_metadataRow?_iff

/-- A first page can be shown exactly if all values that it shows can be written. -/
theorem isSome_firstPageLines?_iff : (firstPageLines? page).isSome ↔
    ∀ value ∈ page.shownValues, Json.Throughout Json.HasFewDigits value := by
  have hAuthors := @isSome_sectionLines?_iff _ "## Authors" (given page.authors) authorLines? [""]
  have hPoints :=
    @isSome_sectionLines?_iff _ "## Key Highlights" (given page.bulletPoints) pointLine? [""]
  have hSummary :=
    @isSome_sectionLines?_iff _ "## Summary" (given page.summaryParagraphs) summaryLines? []
  simp only [isSome_authorLines?_iff] at hAuthors
  simp only [isSome_pointLine?_iff] at hPoints
  simp only [isSome_summaryLines?_iff] at hSummary
  simp only [FirstPage.shownValues, List.forall_mem_append, List.forall_mem_cons,
    List.forall_mem_map, List.forall_mem_flatMap, and_assoc]
  exact isSome_bind_iff isSome_displayTitle?_iff fun _ _ =>
    isSome_bind_iff isSome_contentLines?_iff fun _ _ =>
      isSome_bind_iff isSome_metadataLines?_iff fun _ _ =>
        isSome_bind_iff hAuthors fun _ _ => isSome_bind_iff hPoints fun _ _ =>
          isSome_bind_pure_iff hSummary

end

section

variable {current : Option Int}

theorem isSome_markerLines?_iff {page : Option Int}
    (hCurrent : ∀ number ∈ current, Text.isShort number = true) :
    (markerLines? current page).isSome ↔ ∀ number ∈ page, Text.isShort number = true := by
  cases page with
  | none => simp [markerLines?]
  | some number =>
    rw [markerLines?]
    split
    · rename_i hSame
      subst hSame
      exact ⟨fun _ => hCurrent, fun _ => rfl⟩
    · rw [pageMarker?, Option.isSome_map, Text.isSome_intText?_iff]
      simp

/-- The next marker is compared with the page of the block, or else with the one before. -/
theorem isShort_or {page : Option Int} (hPage : ∀ number ∈ page, Text.isShort number = true)
    (hCurrent : ∀ number ∈ current, Text.isShort number = true) :
    ∀ number ∈ page.or current, Text.isShort number = true := by
  intro number hNumber
  rcases Option.or_eq_some_iff.1 hNumber with h | ⟨-, h⟩
  · exact hPage number h
  · exact hCurrent number h

theorem isSome_blocksLinesFrom?_iff {blocks : List ContentBlock}
    (hCurrent : ∀ number ∈ current, Text.isShort number = true) :
    (blocksLinesFrom? current blocks).isSome ↔
      ∀ block ∈ blocks, ∀ number ∈ block.page?, Text.isShort number = true := by
  induction blocks generalizing current with
  | nil => simp [blocksLinesFrom?]
  | cons block rest ih =>
    rw [List.forall_mem_cons]
    exact isSome_bind_iff (isSome_markerLines?_iff hCurrent) fun hPage _ =>
      isSome_bind_pure_iff (ih (isShort_or hPage hCurrent))

/-- Blocks can be shown exactly if the numbers of their pages can be written. -/
theorem isSome_blocksLines?_iff {blocks : List ContentBlock} : (blocksLines? blocks).isSome ↔
    ∀ block ∈ blocks, ∀ number ∈ block.page?, Text.isShort number = true :=
  isSome_blocksLinesFrom?_iff nofun

end

theorem ne_nil_of_bodyLines? {report : Report} {body : List String}
    (h : bodyLines? report = some body) : body ≠ [] := by
  obtain ⟨firstPage, -, hRest⟩ := Option.bind_eq_some_iff.1 h
  obtain ⟨innerPages, -, hBody⟩ := Option.bind_eq_some_iff.1 hRest
  rw [← Option.some.inj hBody]
  simp

/-- A report can be shown exactly if all whole numbers that are shown have few enough digits. -/
theorem isSome_bodyLines?_iff {report : Report} :
    (bodyLines? report).isSome ↔ report.IsShowable :=
  (isSome_bind_iff isSome_firstPageLines?_iff fun _ _ =>
    isSome_bind_pure_iff isSome_blocksLines?_iff).trans
      ⟨fun h => ⟨h.1, h.2⟩, fun h => ⟨h.values, h.pages⟩⟩

end Markdown

end ReportPress
