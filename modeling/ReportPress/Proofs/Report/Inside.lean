import ReportPress.Proofs.Json.Nesting
import ReportPress.Proofs.Record.Slots
import ReportPress.Report.Dump

/-!
What stands in a report stands in the object that it is written as: the values that are bound to no
type, and the numbers of pages. Main statements: `Report.inside_of_mem_freeValues` and
`Report.inside_of_page?`.
-/

namespace ReportPress

open Json (Inside)

namespace Record

section

variable {slots : List Slot} {others : Members} {field : Field} {part : Json}

theorem inside_of_slot {value : Json} (hSlot : (field, some value) ∈ slots) :
    Inside value (.obj (write slots others)) := by
  have hMember : (field.jsonName, value) ∈ write slots others :=
    mem_write.2 (.inl ⟨_, hSlot, rfl, rfl⟩)
  exact .single (List.mem_map_of_mem hMember)

theorem inside_of_other (h : part ∈ others.map (·.2)) :
    Inside part (.obj (write slots others)) := by
  obtain ⟨member, hMember, rfl⟩ := List.mem_map.1 h
  exact .single (List.mem_map_of_mem (mem_write.2 (.inr hMember)))

/-- The values of a record all of whose fields take any value. -/
theorem inside_of_mem_values (h : part ∈ slots.filterMap (·.2) ++ others.map (·.2)) :
    Inside part (.obj (write slots others)) := by
  rcases List.mem_append.1 h with hSlots | hOthers
  · obtain ⟨⟨field, value⟩, hSlot, rfl⟩ := List.mem_filterMap.1 hSlots
    exact inside_of_slot hSlot
  · exact inside_of_other hOthers

variable {α : Type} {toJson : α → Json}

theorem inside_of_list {items : List α} (hSlot : (field, some (.ofList toJson items)) ∈ slots)
    {a : α} (ha : a ∈ items) : Inside (toJson a) (.obj (write slots others)) := by
  have hItem : toJson a ∈ (Json.ofList toJson items).parts := List.mem_map_of_mem ha
  exact .head hItem (inside_of_slot hSlot)

theorem inside_of_nullableList {items : Option (Option (List α))}
    (hSlot : (field, items.map (.ofNullable (.ofList toJson))) ∈ slots) {a : α}
    (ha : a ∈ items.join.getD []) : Inside (toJson a) (.obj (write slots others)) := by
  rcases items with _ | _ | items
  · cases ha
  · cases ha
  · exact inside_of_list hSlot ha

end

end Record

open Record

theorem Author.inside_of_mem_freeValues {author : Author} {part : Json}
    (h : part ∈ author.freeValues) : Inside part author.toJson :=
  inside_of_mem_values h

theorem SummaryParagraph.inside_of_mem_freeValues {paragraph : SummaryParagraph} {part : Json}
    (h : part ∈ paragraph.freeValues) : Inside part paragraph.toJson :=
  inside_of_mem_values h

theorem FirstPage.mem_slots (page : FirstPage) (field : PageField) :
    (field.field, page.value? field) ∈ page.slots :=
  List.mem_append_left _ (List.mem_map_of_mem (PageField.mem_all field))

theorem FirstPage.inside_of_mem_freeValues {page : FirstPage} {part : Json}
    (h : part ∈ page.freeValues) : Inside part page.toJson := by
  have hAuthors : (authorsField, page.authors.map (.ofNullable (.ofList Author.toJson))) ∈
      page.slots := by
    simp [slots]
  have hPoints : (bulletPointsField, page.bulletPoints.map (.ofNullable (.ofList id))) ∈
      page.slots := by
    simp [slots]
  have hParagraphs : (summaryParagraphsField,
      page.summaryParagraphs.map (.ofNullable (.ofList SummaryParagraph.toJson))) ∈
        page.slots := by
    simp [slots]
  simp only [freeValues, List.mem_append] at h
  rcases h with (((hField | hAuthor) | hPoint) | hParagraph) | hExtra
  · obtain ⟨field, -, hValue⟩ := List.mem_filterMap.1 hField
    exact inside_of_slot (hValue ▸ page.mem_slots field)
  · obtain ⟨author, hMem, hInside⟩ := List.mem_flatMap.1 hAuthor
    exact (Author.inside_of_mem_freeValues hInside).trans
      (inside_of_nullableList hAuthors hMem)
  · exact inside_of_nullableList hPoints hPoint
  · obtain ⟨paragraph, hMem, hInside⟩ := List.mem_flatMap.1 hParagraph
    exact (SummaryParagraph.inside_of_mem_freeValues hInside).trans
      (inside_of_nullableList hParagraphs hMem)
  · exact inside_of_other hExtra

theorem TableData.inside_of_mem_freeValues {table : TableData} {part : Json}
    (h : part ∈ table.freeValues) : Inside part table.toJson :=
  inside_of_other h

namespace ContentBlock

variable {block : ContentBlock}

theorem inside_of_mem_freeValues {part : Json} (h : part ∈ block.freeValues) :
    Inside part block.toJson := by
  rcases List.mem_append.1 h with hTable | hExtra
  · obtain ⟨table, hMem, hInside⟩ := List.mem_flatMap.1 hTable
    have hSome : block.table = some (some table) :=
      Option.join_eq_some_iff.1 (Option.mem_toList.1 hMem)
    have hSlot : (tableField, some table.toJson) ∈ block.slots := by
      simp [slots, hSome, Json.ofNullable]
    exact (TableData.inside_of_mem_freeValues hInside).trans (inside_of_slot hSlot)
  · exact inside_of_other hExtra

theorem inside_of_page? {page : Int} (h : block.page? = some page) :
    Inside (.int page) block.toJson := by
  have hSome : block.pageNumber = some (some page) := Option.join_eq_some_iff.1 h
  have hSlot : (pageNumberField, some (.int page)) ∈ block.slots := by
    simp [slots, hSome, Json.ofNullable]
  exact inside_of_slot hSlot

end ContentBlock

namespace Report

variable {report : Report}

theorem inside_of_mem_blocks {block : ContentBlock} (h : block ∈ report.blocks) :
    Inside block.toJson report.toJson := by
  rw [blocks] at h
  cases hBlocks : report.innerPagesParagraphs with
  | none => simp [hBlocks] at h
  | some blocks =>
    rw [hBlocks] at h
    have hSlot : (innerPagesParagraphsField, some (.ofList ContentBlock.toJson blocks)) ∈
        report.slots := by
      simp [slots, hBlocks]
    exact inside_of_list hSlot h

theorem inside_of_mem_freeValues {part : Json} (h : part ∈ report.freeValues) :
    Inside part report.toJson := by
  simp only [freeValues, List.mem_append] at h
  rcases h with (hPage | hBlock) | hExtra
  · obtain ⟨page, hMem, hInside⟩ := List.mem_flatMap.1 hPage
    have hSome : report.firstPage = some page := Option.mem_toList.1 hMem
    have hSlot : (firstPageField, some page.toJson) ∈ report.slots := by
      simp [slots, hSome]
    exact (FirstPage.inside_of_mem_freeValues hInside).trans (inside_of_slot hSlot)
  · obtain ⟨block, hMem, hInside⟩ := List.mem_flatMap.1 hBlock
    exact (ContentBlock.inside_of_mem_freeValues hInside).trans (inside_of_mem_blocks hMem)
  · exact inside_of_other hExtra

theorem inside_of_page? {block : ContentBlock} {page : Int} (hBlock : block ∈ report.blocks)
    (hPage : block.page? = some page) : Inside (.int page) report.toJson :=
  (ContentBlock.inside_of_page? hPage).trans (inside_of_mem_blocks hBlock)

end Report

end ReportPress
