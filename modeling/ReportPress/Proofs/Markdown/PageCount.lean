import Mathlib.Data.Int.Order.Basic
import Mathlib.Order.Bounds.Defs
import Mathlib.Order.MinMax
import ReportPress.Markdown.Document
import ReportPress.Proofs.Markdown.Markers

/-!
The page count of a report and the pages that its document names. The first page is always named, so
that the greatest page named is at least 1, while the page count is the greatest page number of the
blocks; the two are the same unless every page number is below 1. Main statement:
`pageCount_agrees_iff`.
-/

namespace ReportPress.Markdown

/-- The pages that the markers of a document name: the first one, and those marked in front of
blocks. -/
def namedPages (marked : List MarkedBlock) : List Int := 1 :: marks marked

section

variable {page : Int}

theorem mem_destutter'_iff (first : Int) (rest : List Int) :
    page ∈ rest.destutter' (· ≠ ·) first ↔ page ∈ first :: rest := by
  induction rest generalizing first with
  | nil => rfl
  | cons number rest ih =>
    by_cases hSame : first = number
    · subst hSame
      rw [List.destutter'_cons_neg _ (by simp), ih]
      simp
    · rw [List.destutter'_cons_pos _ hSame, List.mem_cons, ih, ← List.mem_cons]

theorem IsMarked.mem_marks_iff {blocks : List ContentBlock} {marked : List MarkedBlock}
    (h : IsMarked blocks marked) : page ∈ marks marked ↔ page ∈ pages blocks := by
  rw [h.marks_eq]
  cases pages blocks with
  | nil => rfl
  | cons first rest => exact mem_destutter'_iff first rest

end

section

variable {report : Report}

theorem pageCount_eq (report : Report) : report.pageCount = (pages report.blocks).max?.getD 1 := by
  rw [Report.pageCount, pages]
  cases report.blocks.filterMap ContentBlock.page? <;> rfl

theorem pageCount_of_pages_eq_nil (h : pages report.blocks = []) : report.pageCount = 1 := by
  rw [pageCount_eq, h]
  rfl

/-- The page count is the greatest page number, if a block has one. -/
theorem pageCount_isGreatest (h : pages report.blocks ≠ []) :
    IsGreatest {page | page ∈ pages report.blocks} report.pageCount := by
  rw [pageCount_eq]
  cases hMax : (pages report.blocks).max? with
  | none => exact absurd (List.max?_eq_none_iff.1 hMax) h
  | some greatest =>
    obtain ⟨hMem, hBound⟩ := List.max?_eq_some_iff.1 hMax
    exact ⟨hMem, fun page hPage => hBound page hPage⟩

theorem le_pageCount {page : Int} (h : page ∈ pages report.blocks) : page ≤ report.pageCount :=
  (pageCount_isGreatest (List.ne_nil_of_mem h)).2 h

theorem one_le_pageCount_iff :
    1 ≤ report.pageCount ↔ pages report.blocks = [] ∨ ∃ page ∈ pages report.blocks, 1 ≤ page := by
  constructor
  · intro h
    by_cases hNone : pages report.blocks = []
    · exact .inl hNone
    · exact .inr ⟨report.pageCount, (pageCount_isGreatest hNone).1, h⟩
  · rintro (hNone | ⟨page, hPage, hOne⟩)
    · exact (pageCount_of_pages_eq_nil hNone).ge
    · exact hOne.trans (le_pageCount hPage)

/-- The greatest page that a document names is the page count, or the first page if that is less. -/
theorem namedPages_isGreatest {marked : List MarkedBlock} (h : IsMarked report.blocks marked) :
    IsGreatest {page | page ∈ namedPages marked} (max 1 report.pageCount) := by
  constructor
  · by_cases hNone : pages report.blocks = []
    · rw [pageCount_of_pages_eq_nil hNone]
      exact List.mem_cons_self
    rcases max_choice 1 report.pageCount with hFirst | hCount
    · rw [hFirst]
      exact List.mem_cons_self
    · rw [hCount]
      exact List.mem_cons_of_mem 1 (h.mem_marks_iff.2 (pageCount_isGreatest hNone).1)
  · rintro page (_ | ⟨_, hMark⟩)
    · exact le_max_left 1 _
    · exact (le_pageCount (h.mem_marks_iff.1 hMark)).trans (le_max_right 1 _)

theorem bodyLines?_eq (report : Report) : bodyLines? report = append?
    ((pageMarker? 1).map List.tail)
      (append? (firstPageLines? report.page) (blocksLines? report.blocks)) := by
  have hFirst : (pageMarker? 1).map List.tail = some ["Page 1", pageRule, ""] := rfl
  rw [bodyLines?, hFirst]
  cases firstPageLines? report.page <;> cases blocksLines? report.blocks <;> simp [append?]

/-- A document names the first page and the pages marked in front of its blocks. The page count is
an upper bound of the page numbers of the blocks, and 1 where no block has one; it is the greatest
page named exactly if it is at least 1, that is if no block has a page number or one has a page
number from 1 on. -/
theorem pageCount_agrees_iff (report : Report) : ∃ marked, IsMarked report.blocks marked ∧
    document report = documentOf (append? ((pageMarker? 1).map List.tail)
      (append? (firstPageLines? report.page)
        ((marked.mapM MarkedBlock.lines?).map List.flatten))) ∧
    (∀ block ∈ report.blocks, ∀ page ∈ block.page?, page ≤ report.pageCount) ∧
    (pages report.blocks = [] → report.pageCount = 1) ∧
    (IsGreatest {page | page ∈ namedPages marked} report.pageCount ↔ 1 ≤ report.pageCount) ∧
    (1 ≤ report.pageCount ↔
      pages report.blocks = [] ∨ ∃ page ∈ pages report.blocks, 1 ≤ page) := by
  obtain ⟨marked, hMarked, hLines⟩ := exists_isMarked report.blocks
  have hNamed := namedPages_isGreatest hMarked
  refine ⟨marked, hMarked, ?_, fun block hBlock page hPage => ?_,
    pageCount_of_pages_eq_nil, ⟨fun h => ?_, fun h => ?_⟩, one_le_pageCount_iff⟩
  · rw [← hLines, ← bodyLines?_eq]
    rfl
  · exact le_pageCount (List.mem_filterMap.2 ⟨block, hBlock, hPage⟩)
  · exact h.2 List.mem_cons_self
  · rwa [max_eq_right h] at hNamed

end

/-- A report with one block, on page 0. -/
def zeroPage : Json :=
  .obj [("innerPagesParagraphs",
    .arr [.obj [("style", .str "body text"), ("pageNumber", .int 0)]])]

theorem not_pageCount_zeroPage : ∃ report,
    Record.ofData "Report" Report.check zeroPage = .ok report ∧ report.pageCount = 0 ∧
      ∀ marked, IsMarked report.blocks marked →
        ¬ IsGreatest {page | page ∈ namedPages marked} report.pageCount := by
  refine ⟨⟨none, some [⟨.known .bodyText, none, none, some (some 0), []⟩], []⟩, rfl, rfl,
    fun marked _ h => ?_⟩
  exact absurd (h.2 List.mem_cons_self) (by decide)

end ReportPress.Markdown
