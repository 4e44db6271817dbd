import ReportPress.Proofs.Record.Bounds
import ReportPress.Proofs.Record.Faithful
import ReportPress.Proofs.Record.Input
import ReportPress.Proofs.Report.Inside
import ReportPress.Proofs.Report.RoundTrip

/-!
Reports lose and invent nothing. The shape of a report tells which objects in it are records and of
which fields, and whatever is accepted as a report is written as a value of this shape is, unless it
nests too deep to be written. Main statements: `Report.isFaithful` and `Report.dump_read`.
-/

namespace ReportPress

open Record

/-- The whole numbers of what is read from a value that JSON text denotes have few enough digits. -/
theorem Record.IsFaithful.hasFewDigits {α : Type} {check : Json → Check α} {toJson : α → Json}
    {shape : Shape} (h : IsFaithful check toJson shape) {value : Json} {a : α}
    (hValue : value.IsDenoted) (hCheck : check value = .ok a) :
    Json.Throughout Json.HasFewDigits (toJson a) := by
  have hWritten := (h value a hValue.distinct hCheck).hasFewDigits hValue.hasFewDigits
  exact hWritten.of_finite fun _ => Json.HasFewDigits.of_finite

/-- The style is written by the tag that gave it. -/
theorem BlockStyle.isVerbatim : IsVerbatim check fun style => .str style.tag := by
  intro raw style h
  cases raw with
  | str tag =>
    cases h
    exact congrArg Json.str (tag_ofTag tag)
  | _ => cases h

namespace Author

/-- The shape of an author. -/
def shape : Shape := .record fields fun _ => .any

theorem areTold : AreTold fields := ⟨areApart, by decide⟩

theorem isFaithful : IsFaithful check toJson shape := by
  apply isFaithful_object areTold
  case hFields =>
    intro author
    rfl
  case hExtras =>
    intro members author hCheck
    cases hCheck
    rfl
  case hSlots =>
    intro members author _ hCheck slot hSlot
    cases hCheck
    simp only [slots, List.mem_cons, List.not_mem_nil, or_false] at hSlot
    rcases hSlot with rfl | rfl | rfl <;> exact isWritten_value? rfl

end Author

namespace SummaryParagraph

/-- The shape of a summary paragraph. -/
def shape : Shape := .record fields fun _ => .any

theorem areTold : AreTold fields := ⟨areApart, by decide⟩

theorem isFaithful : IsFaithful check toJson shape := by
  apply isFaithful_object areTold
  case hFields =>
    intro paragraph
    rfl
  case hExtras =>
    intro members paragraph hCheck
    cases hCheck
    rfl
  case hSlots =>
    intro members paragraph _ hCheck slot hSlot
    cases hCheck
    simp only [slots, List.mem_cons, List.not_mem_nil, or_false] at hSlot
    rcases hSlot with rfl | rfl <;> exact isWritten_value? rfl

end SummaryParagraph

namespace FirstPage

/-- The shape of a field of a first page. -/
def fieldShape (field : Field) : Shape :=
  if field = authorsField then .nullable (.list Author.shape)
  else if field = summaryParagraphsField then .nullable (.list SummaryParagraph.shape)
  else .any

/-- The shape of a first page. -/
def shape : Shape := .record fields fieldShape

theorem areTold : AreTold fields := ⟨areApart, by decide⟩

theorem fieldShape_field (field : PageField) : fieldShape field.field = .any := by
  cases field <;> rfl

theorem isFaithful : IsFaithful check toJson shape := by
  apply isFaithful_object areTold
  case hFields =>
    intro page
    rw [slots, List.map_append, List.map_map]
    rfl
  case hExtras =>
    intro members page hCheck
    obtain ⟨authors, points, paragraphs, -, -, -, rfl⟩ := Check.map3_eq_ok_iff.1 hCheck
    rfl
  case hSlots =>
    intro members page hMembers hCheck slot hSlot
    obtain ⟨authors, points, paragraphs, hAuthors, hPoints, hParagraphs, rfl⟩ :=
      Check.map3_eq_ok_iff.1 hCheck
    simp only [slots, List.mem_append, List.mem_map, List.mem_cons, List.not_mem_nil,
      or_false] at hSlot
    rcases hSlot with ⟨field, -, rfl⟩ | rfl | rfl | rfl
    · exact isWritten_value? (fieldShape_field field)
    · exact IsFaithful.optional Author.isFaithful.list.nullable hMembers hAuthors
    · exact IsFaithful.optional isVerbatim_any.list.nullable.isFaithful hMembers hPoints
    · exact IsFaithful.optional SummaryParagraph.isFaithful.list.nullable hMembers hParagraphs

end FirstPage

namespace TableData

/-- The shape of a table. -/
def shape : Shape := .record fields fun _ => .any

theorem areTold : AreTold fields := ⟨areApart, by decide⟩

theorem isFaithful : IsFaithful check toJson shape := by
  apply isFaithful_object areTold
  case hFields =>
    intro table
    rfl
  case hExtras =>
    intro members table hCheck
    obtain ⟨headers, rows, -, -, rfl⟩ := Check.map2_eq_ok_iff.1 hCheck
    rfl
  case hSlots =>
    intro members table hMembers hCheck slot hSlot
    obtain ⟨headers, rows, hHeaders, hRows, rfl⟩ := Check.map2_eq_ok_iff.1 hCheck
    simp only [slots, List.mem_cons, List.not_mem_nil, or_false] at hSlot
    rcases hSlot with rfl | rfl
    · exact IsFaithful.optional isVerbatim_text.list.isFaithful hMembers hHeaders
    · exact IsFaithful.optional isVerbatim_text.list.list.isFaithful hMembers hRows

end TableData

namespace ContentBlock

/-- The shape of a field of a content block. -/
def fieldShape (field : Field) : Shape :=
  if field = tableField then .nullable TableData.shape
  else if field = pageNumberField then .nullable .whole
  else .any

/-- The shape of a content block. -/
def shape : Shape := .record fields fieldShape

theorem areTold : AreTold fields := ⟨areApart, by decide⟩

theorem isFaithful : IsFaithful check toJson shape := by
  apply isFaithful_object areTold
  case hFields =>
    intro block
    rfl
  case hExtras =>
    intro members block hCheck
    obtain ⟨style, text, table, page, -, -, -, -, rfl⟩ := Check.map4_eq_ok_iff.1 hCheck
    rfl
  case hSlots =>
    intro members block hMembers hCheck slot hSlot
    obtain ⟨style, text, table, page, hStyle, hText, hTable, hPage, rfl⟩ :=
      Check.map4_eq_ok_iff.1 hCheck
    simp only [slots, List.mem_cons, List.not_mem_nil, or_false] at hSlot
    rcases hSlot with rfl | rfl | rfl | rfl
    · have h : IsFaithful BlockStyle.check _ (fieldShape styleField) :=
        BlockStyle.isVerbatim.isFaithful
      exact h.required hMembers hStyle
    · exact IsFaithful.optional isVerbatim_text.nullable.isFaithful hMembers hText
    · exact IsFaithful.optional TableData.isFaithful.nullable hMembers hTable
    · exact IsFaithful.optional isFaithful_whole.nullable hMembers hPage

end ContentBlock

namespace Report

/-- The shape of a field of a report. -/
def fieldShape (field : Field) : Shape :=
  if field = firstPageField then FirstPage.shape else .list ContentBlock.shape

/-- The shape of a report. -/
def shape : Shape := .record fields fieldShape

theorem areTold : AreTold fields := ⟨areApart, by decide⟩

theorem isFaithful : IsFaithful check toJson shape := by
  apply isFaithful_object areTold
  case hFields =>
    intro report
    rfl
  case hExtras =>
    intro members report hCheck
    obtain ⟨page, blocks, -, -, rfl⟩ := Check.map2_eq_ok_iff.1 hCheck
    rfl
  case hSlots =>
    intro members report hMembers hCheck slot hSlot
    obtain ⟨page, blocks, hPage, hBlocks, rfl⟩ := Check.map2_eq_ok_iff.1 hCheck
    simp only [slots, List.mem_cons, List.not_mem_nil, or_false] at hSlot
    rcases hSlot with rfl | rfl
    · exact IsFaithful.optional FirstPage.isFaithful hMembers hPage
    · exact IsFaithful.optional ContentBlock.isFaithful.list hMembers hBlocks

/-- A report is written unless a value in it that is bound to no type nests too deep. -/
theorem dump?_eq_some_iff {report : Report} {dumped : Json} : report.dump? = some dumped ↔
    (∀ free ∈ report.freeValues, free.nesting < freeDepth) ∧ report.toJson.finite = dumped := by
  rw [dump?, Record.dump?]
  simp

theorem isSome_dump?_iff {report : Report} :
    report.dump?.isSome ↔ ∀ free ∈ report.freeValues, free.nesting < freeDepth := by
  rw [Option.isSome_iff_exists]
  simp only [dump?_eq_some_iff, exists_and_left, exists_eq', and_true]

section

variable {value : Json} {report : Report}
  (hKeys : Json.Throughout Json.HasDistinctKeys value) (hCheck : check value = .ok report)
include hKeys hCheck

end

section

variable {written : String} {report : Report} (h : ofText written = .ok report)
include h

theorem exists_read_of_ofText : ∃ value, Json.read .records written = .ok value ∧
    Json.Throughout Json.HasDistinctKeys value ∧ check value = .ok report := by
  have hInput : (Input.text written).read "Report" check = .ok report := h
  obtain ⟨value, hValue, hCheck⟩ := Input.read_eq_ok_iff.1 hInput
  have hRead : (Json.read .records written).toOption = some value := hValue
  cases hFound : Json.read .records written with
  | error stop => simp [hFound, Except.toOption] at hRead
  | ok found =>
    rw [hFound] at hRead
    obtain rfl : found = value := Option.some.inj hRead
    exact ⟨found, rfl, Json.distinct_of_read hFound, hCheck⟩

end

/-- Lists in each other. -/
def nestedLists : Nat → Json
  | 0 => .null
  | count + 1 => .arr [nestedLists count]

theorem nesting_nestedLists (count : Nat) : (nestedLists count).nesting = count := by
  induction count with
  | zero => rfl
  | succ count ih =>
    rw [nestedLists, Json.nesting, Json.nestingItems, ih, Json.nestingItems, Nat.max_zero]

theorem throughout_nestedLists {p : Json → Prop} (hNull : p .null) (hList : ∀ items, p (.arr items))
    (count : Nat) : Json.Throughout p (nestedLists count) := by
  induction count with
  | zero => exact (Json.throughout_single_iff rfl).2 hNull
  | succ count ih => exact Json.throughout_arr_iff.2 ⟨hList _, List.forall_mem_singleton.2 ih⟩

theorem distinct_nestedLists (count : Nat) :
    Json.Throughout Json.HasDistinctKeys (nestedLists count) :=
  throughout_nestedLists trivial (fun _ => trivial) count

/-- A report of which only an edition is told. -/
def ofEdition (edition : Json) : Report := ⟨none, none, [("edition", edition)]⟩

theorem check_ofEdition (edition : Json) :
    check (.obj [("edition", edition)]) = .ok (ofEdition edition) := rfl

theorem distinct_edition {edition : Json} (h : Json.Throughout Json.HasDistinctKeys edition) :
    Json.Throughout Json.HasDistinctKeys (.obj [("edition", edition)]) :=
  Json.throughout_obj_iff.2 ⟨List.nodup_singleton _, List.forall_mem_singleton.2 h⟩

/-- The text of a report with a field under both of its names, members beyond the fields, and a page
number given as text. -/
def mixedText : String :=
  "\x7b\"note\": [1], \"first_page\": \x7b\"report_title\": \"Old\", \"x\": null, " ++
    "\"reportTitle\": \"New\", \"bullet_points\": null, \"target_price\": 1e999\x7d, " ++
    "\"innerPagesParagraphs\": [\x7b\"page_number\": \" 2.0 \", \"style\": \"callout\"\x7d]\x7d"

example : (((Input.text mixedText).read "Report" check).toOption.bind dump?).map Json.inline =
    some ("\x7b\"firstPage\": \x7b\"reportTitle\": \"New\", \"targetPrice\": null, " ++
      "\"bulletPoints\": null, \"report_title\": \"Old\", \"x\": null\x7d, " ++
      "\"innerPagesParagraphs\": [\x7b\"style\": \"callout\", \"pageNumber\": 2\x7d], " ++
      "\"note\": [1]\x7d") := by
  decide +kernel

end Report

end ReportPress
