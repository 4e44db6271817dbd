import ReportPress.Proofs.Record.Codec
import ReportPress.Report.Reading

/-!
Reports that were accepted are read as they were written. Every record keeps the fields that were
given, under whatever of their names, apart from its extras, and so each comes back with the same
fields and the same extras. Main statement: `Report.isCodec`.
-/

namespace ReportPress

open Record

namespace Author

/-- The author with all numbers finite. -/
def finite (author : Author) : Author :=
  ⟨author.name.map .finite, author.email.map .finite, author.phone.map .finite,
    Json.finiteMembers author.extras⟩

/-- The fields and the extras fit together. -/
def IsKept (author : Author) : Prop := Fits author.slots author.extras

theorem areApart : AreApart fields := by decide

theorem isCodec : IsCodec check toJson finite IsKept := by
  apply isCodec_object
  case hFits =>
    intro author h
    exact h
  case hKept =>
    intro members author hMembers hCheck
    cases hCheck
    have hInside := (Json.throughout_obj_iff.1 hMembers).2
    refine fits_others areApart hMembers fun slot hSlot => ?_
    simp only [slots, List.mem_cons, List.not_mem_nil, or_false] at hSlot
    rcases hSlot with rfl | rfl | rfl <;> exact isGivenBy_value? _ hInside
  case hRead =>
    intro author h
    have hName := value?_write h (show (nameField, author.name) ∈ _ by simp [slots])
    have hEmail := value?_write h (show (emailField, author.email) ∈ _ by simp [slots])
    have hPhone := value?_write h (show (phoneField, author.phone) ∈ _ by simp [slots])
    have hOthers : others fields _ = _ := others_write h
    rw [hName, hEmail, hPhone, hOthers]
  case hFinite =>
    intro author h
    exact h.finite
  case hSlots =>
    intro author
    rfl
  case hExtras =>
    intro author
    rfl

end Author

namespace SummaryParagraph

/-- The paragraph with all numbers finite. -/
def finite (paragraph : SummaryParagraph) : SummaryParagraph :=
  ⟨paragraph.heading.map .finite, paragraph.content.map .finite,
    Json.finiteMembers paragraph.extras⟩

/-- The fields and the extras fit together. -/
def IsKept (paragraph : SummaryParagraph) : Prop := Fits paragraph.slots paragraph.extras

theorem areApart : AreApart fields := by decide

theorem isCodec : IsCodec check toJson finite IsKept := by
  apply isCodec_object
  case hFits =>
    intro paragraph h
    exact h
  case hKept =>
    intro members paragraph hMembers hCheck
    cases hCheck
    have hInside := (Json.throughout_obj_iff.1 hMembers).2
    refine fits_others areApart hMembers fun slot hSlot => ?_
    simp only [slots, List.mem_cons, List.not_mem_nil, or_false] at hSlot
    rcases hSlot with rfl | rfl <;> exact isGivenBy_value? _ hInside
  case hRead =>
    intro paragraph h
    have hHeading := value?_write h (show (headingField, paragraph.heading) ∈ _ by simp [slots])
    have hContent := value?_write h (show (contentField, paragraph.content) ∈ _ by simp [slots])
    have hOthers : others fields _ = _ := others_write h
    rw [hHeading, hContent, hOthers]
  case hFinite =>
    intro paragraph h
    exact h.finite
  case hSlots =>
    intro paragraph
    rfl
  case hExtras =>
    intro paragraph
    rfl

end SummaryParagraph

namespace FirstPage

/-- The first page with all numbers finite. -/
def finite (page : FirstPage) : FirstPage :=
  ⟨fun field => (page.value? field).map .finite,
    page.authors.map (Option.map (List.map Author.finite)),
    page.bulletPoints.map (Option.map (List.map Json.finite)),
    page.summaryParagraphs.map (Option.map (List.map SummaryParagraph.finite)),
    Json.finiteMembers page.extras⟩

/-- The fields and the extras fit together, on the page and in its lists. -/
structure IsKept (page : FirstPage) : Prop where
  fits : Fits page.slots page.extras
  authors : ∀ list ∈ page.authors, ∀ authors ∈ list, ∀ author ∈ authors, author.IsKept
  bulletPoints : ∀ list ∈ page.bulletPoints, ∀ points ∈ list, ∀ point ∈ points,
    Json.Throughout Json.HasDistinctKeys point
  summaryParagraphs : ∀ list ∈ page.summaryParagraphs, ∀ paragraphs ∈ list,
    ∀ paragraph ∈ paragraphs, paragraph.IsKept

theorem areApart : AreApart fields := by decide

theorem ofList_ne_null {α : Type} (toJson : α → Json) (items : List α) :
    Json.ofList toJson items ≠ .null := by
  intro h
  cases h

theorem slots_finite (page : FirstPage) : page.finite.slots = page.slots.map finiteSlot := by
  have hAuthors := Author.isCodec.list.nullable (ofList_ne_null _)
  have hPoints := isCodec_any.list.nullable (ofList_ne_null _)
  have hParagraphs := SummaryParagraph.isCodec.list.nullable (ofList_ne_null _)
  simp only [slots, finite, List.map_append, List.map_map, List.map_cons, List.map_nil, finiteSlot,
    hAuthors.map_finite, hPoints.map_finite, hParagraphs.map_finite]
  rfl

theorem isCodec : IsCodec check toJson finite IsKept := by
  have hAuthors := Author.isCodec.list.nullable (ofList_ne_null _)
  have hPoints := isCodec_any.list.nullable (ofList_ne_null _)
  have hParagraphs := SummaryParagraph.isCodec.list.nullable (ofList_ne_null _)
  apply isCodec_object
  case hFits =>
    intro page h
    exact h.fits
  case hKept =>
    intro members page hMembers hCheck
    obtain ⟨authors, points, paragraphs, hA, hB, hC, rfl⟩ := Check.map3_eq_ok_iff.1 hCheck
    have hInside := (Json.throughout_obj_iff.1 hMembers).2
    obtain ⟨hAuthorsKept, hAuthorsGiven⟩ := hAuthors.of_optional hInside hA
    obtain ⟨hPointsKept, hPointsGiven⟩ := hPoints.of_optional hInside hB
    obtain ⟨hParagraphsKept, hParagraphsGiven⟩ := hParagraphs.of_optional hInside hC
    refine ⟨fits_others areApart hMembers fun slot hSlot => ?_, hAuthorsKept, hPointsKept,
      hParagraphsKept⟩
    simp only [slots, List.mem_append, List.mem_map, List.mem_cons, List.not_mem_nil,
      or_false] at hSlot
    rcases hSlot with ⟨field, -, rfl⟩ | rfl | rfl | rfl
    · exact isGivenBy_value? _ hInside
    · exact hAuthorsGiven
    · exact hPointsGiven
    · exact hParagraphsGiven
  case hRead =>
    intro page h
    refine Check.map3_eq_ok_iff.2 ⟨_, _, _, hAuthors.optional_write h.fits (by simp [slots]) h.authors,
      hPoints.optional_write h.fits (by simp [slots]) h.bulletPoints,
      hParagraphs.optional_write h.fits (by simp [slots]) h.summaryParagraphs, ?_⟩
    have hValues : (fun field : PageField => field.field.value? (write page.slots page.extras)) =
        page.value? := by
      funext field
      refine value?_write h.fits (List.mem_append_left _ ?_)
      exact List.mem_map_of_mem (PageField.mem_all field)
    have hOthers : others fields _ = _ := others_write h.fits
    rw [hValues, hOthers]
  case hFinite =>
    intro page h
    refine ⟨?_, hAuthors.kept_map_finite h.authors, hPoints.kept_map_finite h.bulletPoints,
      hParagraphs.kept_map_finite h.summaryParagraphs⟩
    rw [slots_finite]
    exact h.fits.finite
  case hSlots =>
    exact slots_finite
  case hExtras =>
    intro page
    rfl

end FirstPage

namespace TableData

/-- The table with all numbers finite. -/
def finite (table : TableData) : TableData :=
  ⟨table.headers, table.rows, Json.finiteMembers table.extras⟩

/-- The fields and the extras fit together. -/
def IsKept (table : TableData) : Prop := Fits table.slots table.extras

theorem areApart : AreApart fields := by decide

theorem isCodec_cells : IsCodec (list text) (.ofList .str) id fun cells => ∀ cell ∈ cells, True := by
  have h := isCodec_text.list
  rwa [List.map_id_fun] at h

theorem isCodec_rows : IsCodec (list (list text)) (.ofList (.ofList .str)) id fun rows =>
    ∀ row ∈ rows, ∀ cell ∈ row, True := by
  have h := isCodec_cells.list
  rwa [List.map_id_fun] at h

theorem slots_finite (table : TableData) : table.finite.slots = table.slots.map finiteSlot := by
  have hHeaders := isCodec_cells.map_finite table.headers
  have hRows := isCodec_rows.map_finite table.rows
  simp only [Option.map_id_fun, id_eq] at hHeaders hRows
  simp only [slots, finite, List.map_cons, List.map_nil, finiteSlot, ← hHeaders, ← hRows]

theorem isCodec : IsCodec check toJson finite IsKept := by
  apply isCodec_object
  case hFits =>
    intro table h
    exact h
  case hKept =>
    intro members table hMembers hCheck
    obtain ⟨headers, rows, hHeaders, hRows, rfl⟩ := Check.map2_eq_ok_iff.1 hCheck
    have hInside := (Json.throughout_obj_iff.1 hMembers).2
    refine fits_others areApart hMembers fun slot hSlot => ?_
    simp only [slots, List.mem_cons, List.not_mem_nil, or_false] at hSlot
    rcases hSlot with rfl | rfl
    · exact (isCodec_cells.of_optional hInside hHeaders).2
    · exact (isCodec_rows.of_optional hInside hRows).2
  case hRead =>
    intro table h
    have hHeaders := isCodec_cells.optional_write h (show (headersField, table.headers.map _) ∈ _ by
      simp [slots]) fun _ _ _ _ => trivial
    have hRows := isCodec_rows.optional_write h (show (rowsField, table.rows.map _) ∈ _ by
      simp [slots]) fun _ _ _ _ _ _ => trivial
    have hOthers : others fields _ = _ := others_write h
    refine Check.map2_eq_ok_iff.2 ⟨_, _, hHeaders, hRows, ?_⟩
    rw [hOthers]
  case hFinite =>
    intro table h
    rw [IsKept, slots_finite]
    exact Fits.finite h
  case hSlots =>
    exact slots_finite
  case hExtras =>
    intro table
    rfl

end TableData

theorem BlockStyle.isCodec :
    IsCodec check (fun style => .str style.tag) id fun style => ofTag style.tag = style := by
  refine isCodec_single (fun _ => rfl) (fun _ => rfl) ?_ ?_
  · intro raw style h
    cases raw with
    | str tag =>
      cases h
      rw [tag_ofTag]
    | _ => cases h
  · intro style h
    exact congrArg Except.ok h

namespace ContentBlock

/-- The content block with all numbers finite. -/
def finite (block : ContentBlock) : ContentBlock :=
  ⟨block.style, block.text, block.table.map (Option.map TableData.finite), block.pageNumber,
    Json.finiteMembers block.extras⟩

/-- The fields and the extras fit together, in the block and in its table, and a known style is not
given by its tag. -/
structure IsKept (block : ContentBlock) : Prop where
  fits : Fits block.slots block.extras
  style : BlockStyle.ofTag block.style.tag = block.style
  table : ∀ value ∈ block.table, ∀ table ∈ value, table.IsKept

theorem areApart : AreApart fields := by decide

theorem isCodec_text : IsCodec (nullable Record.text) (.ofNullable .str) id fun value =>
    ∀ text ∈ value, True := by
  have h := Record.isCodec_text.nullable fun _ h => by cases h
  rwa [Option.map_id_fun] at h

theorem isCodec_table : IsCodec (nullable TableData.check) (.ofNullable TableData.toJson)
    (Option.map TableData.finite) fun value => ∀ table ∈ value, table.IsKept :=
  TableData.isCodec.nullable fun _ h => by cases h

theorem isCodec_pageNumber : IsCodec (nullable whole) (.ofNullable .int) id fun value =>
    ∀ page ∈ value, True := by
  have h := isCodec_whole.nullable fun _ h => by cases h
  rwa [Option.map_id_fun] at h

theorem slots_finite (block : ContentBlock) : block.finite.slots = block.slots.map finiteSlot := by
  have hText := isCodec_text.map_finite block.text
  have hTable := isCodec_table.map_finite block.table
  have hPage := isCodec_pageNumber.map_finite block.pageNumber
  simp only [Option.map_id_fun, id_eq] at hText hPage
  simp only [slots, finite, List.map_cons, List.map_nil, finiteSlot, hTable, ← hText, ← hPage]
  rfl

theorem isCodec : IsCodec check toJson finite IsKept := by
  apply isCodec_object
  case hFits =>
    intro block h
    exact h.fits
  case hKept =>
    intro members block hMembers hCheck
    obtain ⟨style, text, table, pageNumber, hStyle, hText, hTable, hPage, rfl⟩ :=
      Check.map4_eq_ok_iff.1 hCheck
    have hInside := (Json.throughout_obj_iff.1 hMembers).2
    obtain ⟨hStyleKept, hStyleGiven⟩ := BlockStyle.isCodec.of_required hInside hStyle
    obtain ⟨hTableKept, hTableGiven⟩ := isCodec_table.of_optional hInside hTable
    refine ⟨fits_others areApart hMembers fun slot hSlot => ?_, hStyleKept, hTableKept⟩
    simp only [slots, List.mem_cons, List.not_mem_nil, or_false] at hSlot
    rcases hSlot with rfl | rfl | rfl | rfl
    · exact hStyleGiven
    · exact (isCodec_text.of_optional hInside hText).2
    · exact hTableGiven
    · exact (isCodec_pageNumber.of_optional hInside hPage).2
  case hRead =>
    intro block h
    refine Check.map4_eq_ok_iff.2 ⟨block.style, block.text, block.table, block.pageNumber,
      BlockStyle.isCodec.required_write h.fits (by simp [slots]) h.style,
      isCodec_text.optional_write h.fits (by simp [slots]) fun _ _ _ _ => trivial,
      isCodec_table.optional_write h.fits (by simp [slots]) h.table,
      isCodec_pageNumber.optional_write h.fits (by simp [slots]) fun _ _ _ _ => trivial, ?_⟩
    have hOthers : others fields _ = _ := others_write h.fits
    rw [hOthers]
  case hFinite =>
    intro block h
    refine ⟨?_, h.style, isCodec_table.kept_map_finite h.table⟩
    rw [slots_finite]
    exact h.fits.finite
  case hSlots =>
    exact slots_finite
  case hExtras =>
    intro block
    rfl

end ContentBlock

namespace Report

/-- The report with all numbers finite. -/
def finite (report : Report) : Report :=
  ⟨report.firstPage.map FirstPage.finite,
    report.innerPagesParagraphs.map (List.map ContentBlock.finite),
    Json.finiteMembers report.extras⟩

/-- The fields and the extras fit together, in the report and in its parts. -/
structure IsKept (report : Report) : Prop where
  fits : Fits report.slots report.extras
  firstPage : ∀ page ∈ report.firstPage, page.IsKept
  innerPagesParagraphs : ∀ blocks ∈ report.innerPagesParagraphs, ∀ block ∈ blocks, block.IsKept

theorem areApart : AreApart fields := by decide

theorem slots_finite (report : Report) : report.finite.slots = report.slots.map finiteSlot := by
  have hPage := FirstPage.isCodec.map_finite report.firstPage
  have hBlocks := ContentBlock.isCodec.list.map_finite report.innerPagesParagraphs
  simp only [slots, finite, List.map_cons, List.map_nil, finiteSlot, hPage, hBlocks]

theorem isCodec : IsCodec check toJson finite IsKept := by
  have hBlocks := ContentBlock.isCodec.list
  apply isCodec_object
  case hFits =>
    intro report h
    exact h.fits
  case hKept =>
    intro members report hMembers hCheck
    obtain ⟨page, blocks, hA, hB, rfl⟩ := Check.map2_eq_ok_iff.1 hCheck
    have hInside := (Json.throughout_obj_iff.1 hMembers).2
    obtain ⟨hPageKept, hPageGiven⟩ := FirstPage.isCodec.of_optional hInside hA
    obtain ⟨hBlocksKept, hBlocksGiven⟩ := hBlocks.of_optional hInside hB
    refine ⟨fits_others areApart hMembers fun slot hSlot => ?_, hPageKept, hBlocksKept⟩
    simp only [slots, List.mem_cons, List.not_mem_nil, or_false] at hSlot
    rcases hSlot with rfl | rfl
    · exact hPageGiven
    · exact hBlocksGiven
  case hRead =>
    intro report h
    refine Check.map2_eq_ok_iff.2 ⟨_, _,
      FirstPage.isCodec.optional_write h.fits (by simp [slots]) h.firstPage,
      hBlocks.optional_write h.fits (by simp [slots]) h.innerPagesParagraphs, ?_⟩
    have hOthers : others fields _ = _ := others_write h.fits
    rw [hOthers]
  case hFinite =>
    intro report h
    refine ⟨?_, FirstPage.isCodec.kept_map_finite h.firstPage,
      hBlocks.kept_map_finite h.innerPagesParagraphs⟩
    rw [slots_finite]
    exact h.fits.finite
  case hSlots =>
    exact slots_finite
  case hExtras =>
    intro report
    rfl

end Report

end ReportPress
