import Mathlib.Data.List.Infix
import ReportPress.Markdown.Table
import ReportPress.Proofs.Markdown.Statistics

/-!
Tables in the text of a document. Cells stand between pipes as they are, so a cell with a boundary
in it is read as more than one, and a row without cells is read as a row with an empty cell. Where
no cell has a boundary in it, the text of a table determines its cells. Main statement:
`joinLines_tableLines_inj`.
-/

namespace ReportPress.Markdown

/-- What stands between two cells of a row. -/
def cellBoundary : List Char := " | ".toList

/-- What stands between the last cell of a row and the first cell of the next row. -/
def rowBoundary : List Char := " |\n| ".toList

/-- The cell, with the blanks around it, has no boundary in it. -/
def IsUndivided (cell : List Char) : Prop :=
  ¬ cellBoundary <:+: ' ' :: (cell ++ [' ']) ∧ ¬ rowBoundary <:+: ' ' :: (cell ++ [' '])

instance : DecidablePred IsUndivided := fun _ => inferInstanceAs (Decidable (_ ∧ _))

/-- No cell of the table has a boundary in it. -/
def HasUndividedCells (table : TableData) : Prop :=
  ∀ cell ∈ table.headerCells ++ table.rowCells.flatten, IsUndivided cell.toList

instance : DecidablePred HasUndividedCells := fun table =>
  inferInstanceAs (Decidable (∀ cell ∈ table.headerCells ++ table.rowCells.flatten, _))

/-- The cells that a row is read with; a row without cells is read with an empty one. -/
def shownCells (cells : List String) : List String := if cells = [] then [""] else cells

/-! ### The end of a cell -/

/-- What stands behind a cell and its blank: another cell, another row, or the end of the table. -/
def EndsCell (text : List Char) : Prop :=
  ['|', ' '] <+: text ∨ ['|', '\n', '|', ' '] <+: text ∨ text = ['|', '\n']

section

variable {cell other more rest behind otherBehind : List Char}

/-- What ends with its only blank ends at the latest where the text has a blank. -/
theorem prefix_append_blank (front : List Char) (hFront : ' ' ∉ front)
    (h : front ++ [' '] <+: more ++ ' ' :: rest) : front ++ [' '] <+: more ++ [' '] := by
  have hMore : more ++ [' '] <+: more ++ ' ' :: rest := ⟨rest, by simp⟩
  rcases Nat.lt_or_ge more.length front.length with hShort | hLong
  · have hText := (List.prefix_append front [' ']).trans h
    have hInside : more ++ [' '] <+: front :=
      List.prefix_of_prefix_length_le hMore hText (by simp; omega)
    exact absurd (hInside.subset List.mem_concat_self) hFront
  · exact List.prefix_of_prefix_length_le h hMore (by simp; omega)

/-- A cell that goes on behind the blank after another cell has a boundary in it. -/
theorem not_isUndivided_append (hEnd : EndsCell behind) (h : behind = more ++ ' ' :: rest) :
    ¬ IsUndivided (cell ++ ' ' :: more) := by
  have hInside {front : List Char} (hPrefix : front ++ [' '] <+: more ++ [' ']) :
      ' ' :: (front ++ [' ']) <:+: ' ' :: (cell ++ ' ' :: more ++ [' ']) := by
    obtain ⟨tail, hTail⟩ := hPrefix
    refine ⟨' ' :: cell, tail, ?_⟩
    simp [← hTail]
  rintro ⟨hCell, hRow⟩
  subst h
  rcases hEnd with hNext | hNext | hNone
  · exact hCell (hInside (prefix_append_blank ['|'] (by decide) hNext))
  · exact hRow (hInside (prefix_append_blank ['|', '\n', '|'] (by decide) hNext))
  · have hBlank : ' ' ∈ ['|', '\n'] := hNone ▸ List.mem_append_right more List.mem_cons_self
    exact absurd hBlank (by decide)

/-- The first cell of a text and what stands behind it are determined. -/
theorem append_blank_inj (hCell : IsUndivided cell) (hOther : IsUndivided other)
    (hEnd : EndsCell behind) (hOtherEnd : EndsCell otherBehind)
    (h : cell ++ ' ' :: behind = other ++ ' ' :: otherBehind) :
    cell = other ∧ behind = otherBehind := by
  -- a longer cell would go on behind the blank after the shorter one, into what ends that cell
  rcases List.append_eq_append_iff.1 h with ⟨more, rfl, hMore⟩ | ⟨more, rfl, hMore⟩
  · obtain _ | ⟨c, more⟩ := more
    · exact ⟨(List.append_nil _).symm, List.tail_eq_of_cons_eq hMore⟩
    · obtain ⟨rfl, hBehind⟩ := List.cons_eq_cons.1 hMore
      exact absurd hOther (not_isUndivided_append hEnd hBehind)
  · obtain _ | ⟨c, more⟩ := more
    · exact ⟨List.append_nil _, (List.tail_eq_of_cons_eq hMore).symm⟩
    · obtain ⟨rfl, hBehind⟩ := List.cons_eq_cons.1 hMore
      exact absurd hCell (not_isUndivided_append hOtherEnd hBehind)

end

/-! ### Rows -/

/-- The text of a row, each cell behind its pipe, with the text below it. -/
def rowText (below : List Char) (cells : List (List Char)) : List Char :=
  cells.foldr (fun cell behind => '|' :: ' ' :: (cell ++ ' ' :: behind)) ('|' :: '\n' :: below)

/-- The text of rows. -/
def rowsText (rows : List (List (List Char))) : List Char :=
  rows.foldr (fun cells below => rowText below cells) []

/-- Nothing, or a row that has a cell. -/
def StartsRow (text : List Char) : Prop := text = [] ∨ ['|', ' '] <+: text

section

variable {below otherBelow : List Char} {cells others : List (List Char)}
  {rows otherRows : List (List (List Char))}

theorem rowText_cons (below cell : List Char) (cells : List (List Char)) :
    rowText below (cell :: cells) = '|' :: ' ' :: (cell ++ ' ' :: rowText below cells) := rfl

theorem endsCell_rowText (h : StartsRow below) (cells : List (List Char)) :
    EndsCell (rowText below cells) := by
  cases cells with
  | cons cell cells => exact .inl ⟨_, rfl⟩
  | nil =>
    rcases h with rfl | ⟨tail, rfl⟩
    · exact .inr (.inr rfl)
    · exact .inr (.inl ⟨tail, rfl⟩)

theorem startsRow_rowsText (h : ∀ cells ∈ rows, cells ≠ []) : StartsRow (rowsText rows) := by
  cases rows with
  | nil => exact .inl rfl
  | cons cells rows =>
    cases cells with
    | nil => exact absurd rfl (h [] List.mem_cons_self)
    | cons cell cells => exact .inr ⟨_, rfl⟩

theorem rowText_inj (hCells : ∀ cell ∈ cells, IsUndivided cell)
    (hOthers : ∀ cell ∈ others, IsUndivided cell) (hBelow : StartsRow below)
    (hOtherBelow : StartsRow otherBelow) (h : rowText below cells = rowText otherBelow others) :
    cells = others ∧ below = otherBelow := by
  induction cells generalizing others with
  | nil =>
    cases others with
    | nil => exact ⟨rfl, List.tail_eq_of_cons_eq (List.tail_eq_of_cons_eq h)⟩
    | cons other others => simp [rowText] at h
  | cons cell cells ih =>
    cases others with
    | nil => simp [rowText] at h
    | cons other others =>
      rw [List.forall_mem_cons] at hCells hOthers
      rw [rowText_cons, rowText_cons] at h
      obtain ⟨rfl, hBehind⟩ := append_blank_inj hCells.1 hOthers.1 (endsCell_rowText hBelow cells)
        (endsCell_rowText hOtherBelow others) (List.tail_eq_of_cons_eq (List.tail_eq_of_cons_eq h))
      obtain ⟨rfl, rfl⟩ := ih hCells.2 hOthers.2 hBehind
      exact ⟨rfl, rfl⟩

/-- The text of rows determines them, if each has a cell and no cell has a boundary in it. -/
theorem rowsText_inj (hRows : ∀ cells ∈ rows, cells ≠ [] ∧ ∀ cell ∈ cells, IsUndivided cell)
    (hOtherRows : ∀ cells ∈ otherRows, cells ≠ [] ∧ ∀ cell ∈ cells, IsUndivided cell)
    (h : rowsText rows = rowsText otherRows) : rows = otherRows := by
  induction rows generalizing otherRows with
  | nil =>
    cases otherRows with
    | nil => rfl
    | cons others otherRows => cases others <;> simp [rowsText, rowText] at h
  | cons cells rows ih =>
    cases otherRows with
    | nil => cases cells <;> simp [rowsText, rowText] at h
    | cons others otherRows =>
      rw [List.forall_mem_cons] at hRows hOtherRows
      obtain ⟨rfl, hBelow⟩ := rowText_inj hRows.1.2 hOtherRows.1.2
        (startsRow_rowsText fun cells hMem => (hRows.2 cells hMem).1)
        (startsRow_rowsText fun cells hMem => (hOtherRows.2 cells hMem).1) h
      rw [ih hRows.2 hOtherRows.2 hBelow]

end

/-! ### Tables -/

/-- The rows that the text of a table shows: the headers, the rule and the rows. -/
def shownRows (table : TableData) : List (List String) :=
  table.headerCells :: List.replicate table.headerCells.length "---" :: table.rowCells

/-- The characters of the cells that a row is read with. -/
def cellChars (cells : List String) : List (List Char) := (shownCells cells).map String.toList

section

variable {table other : TableData}

theorem shownCells_ne_nil (cells : List String) : shownCells cells ≠ [] := by
  unfold shownCells
  split
  · exact List.cons_ne_nil _ _
  · assumption

theorem shownCells_of_ne_nil {cells : List String} (h : cells ≠ []) : shownCells cells = cells :=
  if_neg h

theorem isUndivided_of_mem_cellChars {cells : List String}
    (h : ∀ cell ∈ cells, IsUndivided cell.toList) : ∀ cell ∈ cellChars cells, IsUndivided cell := by
  unfold cellChars shownCells
  rw [List.forall_mem_map]
  split
  · decide
  · exact h

theorem rowLine_append (cells : List String) (below : List Char) :
    (rowLine cells).toList ++ '\n' :: below = rowText below (cellChars cells) := by
  by_cases hNil : cells = []
  · subst hNil
    rfl
  have hJoined : '|' :: ' ' :: ((" | ".intercalate cells).toList ++ ' ' :: '|' :: '\n' :: below) =
      rowText below (cells.map String.toList) := by
    induction cells with
    | nil => exact absurd rfl hNil
    | cons cell cells ih =>
      cases cells with
      | nil => simp [rowText]
      | cons next cells =>
        rw [List.map_cons, rowText_cons, ← ih (List.cons_ne_nil _ _)]
        simp
  rw [cellChars, shownCells_of_ne_nil hNil, ← hJoined]
  simp [rowLine]

theorem flatMap_rowLine (rows : List (List String)) :
    (rows.map rowLine).flatMap (fun line => line.toList ++ ['\n']) =
      rowsText (rows.map cellChars) := by
  induction rows with
  | nil => rfl
  | cons cells rows ih =>
    rw [List.map_cons, List.flatMap_cons, ih, List.append_assoc]
    exact rowLine_append cells _

theorem toList_joinLines_tableLines (h : table.headerCells ≠ []) :
    (Text.joinLines (tableLines table)).toList = rowsText ((shownRows table).map cellChars) := by
  have hLines : tableLines table = (shownRows table).map rowLine ++ [""] := by
    simp [tableLines, shownRows, h]
  rw [hLines, Statistics.toList_joinLines_append _ (List.cons_ne_nil _ _), flatMap_rowLine]
  exact List.append_nil _

theorem HasUndividedCells.shownRows (h : HasUndividedCells table) :
    ∀ cells ∈ (shownRows table).map cellChars, cells ≠ [] ∧ ∀ cell ∈ cells, IsUndivided cell := by
  rw [HasUndividedCells, List.forall_mem_append] at h
  rw [List.forall_mem_map]
  intro cells hMem
  refine ⟨by simp [cellChars, shownCells_ne_nil], isUndivided_of_mem_cellChars fun cell hCell => ?_⟩
  rcases List.mem_cons.1 hMem with rfl | hMem
  · exact h.1 cell hCell
  rcases List.mem_cons.1 hMem with rfl | hMem
  · rw [List.eq_of_mem_replicate hCell]
    decide
  · exact h.2 cell (List.mem_flatten_of_mem hMem hCell)

theorem map_cellChars_inj {rows otherRows : List (List String)} :
    rows.map cellChars = otherRows.map cellChars ↔
      rows.map shownCells = otherRows.map shownCells := by
  have hChars : Function.Injective (List.map String.toList) :=
    List.map_injective_iff.2 fun _ _ => String.toList_injective
  have hSplit : cellChars = List.map String.toList ∘ shownCells := rfl
  rw [hSplit, ← List.map_map, ← List.map_map]
  exact (List.map_injective_iff.2 hChars).eq_iff

theorem map_shownCells_shownRows (h : table.headerCells ≠ []) :
    (shownRows table).map shownCells =
      table.headerCells :: shownCells (List.replicate table.headerCells.length "---") ::
        table.rowCells.map shownCells := by
  rw [shownRows, List.map_cons, List.map_cons, shownCells_of_ne_nil h]

/-- Two tables with headers, in whose cells no boundary stands, have the same text exactly if they
have the same headers and the same rows, where a row without cells is read as one empty cell. -/
theorem joinLines_tableLines_inj (hTable : table.headerCells ≠ []) (hOther : other.headerCells ≠ [])
    (hCells : HasUndividedCells table) (hOtherCells : HasUndividedCells other) :
    Text.joinLines (tableLines table) = Text.joinLines (tableLines other) ↔
      table.headerCells = other.headerCells ∧
        table.rowCells.map shownCells = other.rowCells.map shownCells := by
  have hText : Text.joinLines (tableLines table) = Text.joinLines (tableLines other) ↔
      (shownRows table).map cellChars = (shownRows other).map cellChars := by
    rw [← String.toList_inj, toList_joinLines_tableLines hTable, toList_joinLines_tableLines hOther]
    exact ⟨rowsText_inj hCells.shownRows hOtherCells.shownRows, congrArg rowsText⟩
  rw [hText, map_cellChars_inj, map_shownCells_shownRows hTable, map_shownCells_shownRows hOther]
  constructor
  · intro h
    obtain ⟨hHeaders, hBelow⟩ := List.cons_eq_cons.1 h
    exact ⟨hHeaders, List.tail_eq_of_cons_eq hBelow⟩
  · rintro ⟨hHeaders, hRows⟩
    rw [hHeaders, hRows]

end

/-- Two tables with a pipe between letters, which is no boundary; in the second one the letters
stand in cells of their own. -/
def pipedTable : TableData := ⟨some ["---", "x"], some [[], ["a|b"], ["c\nd", "", "e"]], []⟩
def splitTable : TableData := ⟨some ["---", "x"], some [[""], ["a", "b"], ["c\nd", "", "e"]], []⟩

theorem joinLines_tableLines_ne_piped :
    HasUndividedCells pipedTable ∧ HasUndividedCells splitTable ∧
      Text.joinLines (tableLines pipedTable) ≠ Text.joinLines (tableLines splitTable) := by
  have hPiped : HasUndividedCells pipedTable := by decide
  have hSplit : HasUndividedCells splitTable := by decide
  refine ⟨hPiped, hSplit, fun h => ?_⟩
  have hRows := (joinLines_tableLines_inj (by decide) (by decide) hPiped hSplit).1 h
  exact absurd hRows.2 (by decide)

/-! ### Cells with a boundary -/

/-- A boundary between cells, in a cell, makes two cells of it. -/
theorem rowLine_cellBoundary (front back : List String) (left right : String) :
    rowLine (front ++ (left ++ " | " ++ right) :: back) =
      rowLine (front ++ left :: right :: back) := by
  have hBehind : " | ".intercalate ((left ++ " | " ++ right) :: back) =
      " | ".intercalate (left :: right :: back) := by
    rw [String.intercalate_cons_append, String.intercalate_cons_cons]
  cases front with
  | nil => rw [List.nil_append, List.nil_append, rowLine, hBehind, rowLine]
  | cons cell front =>
    have hFront : cell :: front ≠ [] := List.cons_ne_nil _ _
    rw [rowLine, String.intercalate_append_of_ne_nil hFront (List.cons_ne_nil _ _), hBehind,
      ← String.intercalate_append_of_ne_nil hFront (List.cons_ne_nil _ _), rowLine]

/-- A boundary between rows, in a cell, makes two rows of its row. -/
theorem rowLine_rowBoundary (front back : List String) (left right : String) :
    rowLine (front ++ (left ++ " |\n| " ++ right) :: back) =
      Text.joinLines [rowLine (front ++ [left]), rowLine (right :: back)] := by
  have hJoined : " | ".intercalate (front ++ (left ++ " |\n| " ++ right) :: back) =
      " | ".intercalate (front ++ [left]) ++ " |\n| " ++ " | ".intercalate (right :: back) := by
    cases front with
    | nil =>
      rw [List.nil_append, List.nil_append, String.intercalate_cons_append,
        String.intercalate_singleton]
    | cons cell front =>
      have hFront : cell :: front ≠ [] := List.cons_ne_nil _ _
      rw [String.intercalate_append_of_ne_nil hFront (List.cons_ne_nil _ _),
        String.intercalate_cons_append,
        String.intercalate_append_of_ne_nil hFront (List.cons_ne_nil _ _),
        String.intercalate_singleton]
      simp only [String.append_assoc]
  rw [rowLine, hJoined, ← String.toList_inj]
  simp [rowLine, Text.joinLines]

/-- A table with one header. -/
def oneColumn (rows : List (List String)) : TableData := ⟨some ["A"], some rows, []⟩

theorem tableLines_oneColumn (rows : List (List String)) :
    tableLines (oneColumn rows) = "| A |" :: "| --- |" :: (rows.map rowLine ++ [""]) := rfl

/-- With boundaries in cells, or with rows that have no cell, the text of a table does not determine
its cells. -/
theorem not_joinLines_tableLines_inj :
    (Text.joinLines (tableLines (oneColumn [["x | y"]])) =
        Text.joinLines (tableLines (oneColumn [["x", "y"]])) ∧
      Text.joinLines (tableLines (oneColumn [["x |\n| y"]])) =
        Text.joinLines (tableLines (oneColumn [["x"], ["y"]])) ∧
      Text.joinLines (tableLines (oneColumn [[]])) =
        Text.joinLines (tableLines (oneColumn [[""]]))) ∧
    ¬ ∀ table other : TableData, table.headerCells ≠ [] → other.headerCells ≠ [] →
        Text.joinLines (tableLines table) = Text.joinLines (tableLines other) →
          table.headerCells = other.headerCells ∧ table.rowCells = other.rowCells := by
  have hCells : rowLine ["x | y"] = rowLine ["x", "y"] := rowLine_cellBoundary [] [] "x" "y"
  have hRows : rowLine ["x |\n| y"] = Text.joinLines [rowLine ["x"], rowLine ["y"]] :=
    rowLine_rowBoundary [] [] "x" "y"
  have hSame : Text.joinLines (tableLines (oneColumn [["x | y"]])) =
      Text.joinLines (tableLines (oneColumn [["x", "y"]])) := by
    simp only [tableLines_oneColumn, List.map_cons, List.map_nil, hCells]
  refine ⟨⟨hSame, ?_, rfl⟩, fun h => ?_⟩
  · simp only [tableLines_oneColumn, List.map_cons, List.map_nil, hRows]
    rfl
  · have hCounts := h (oneColumn [["x | y"]]) (oneColumn [["x", "y"]]) (by decide) (by decide) hSame
    exact absurd hCounts.2 (by decide)

end ReportPress.Markdown
