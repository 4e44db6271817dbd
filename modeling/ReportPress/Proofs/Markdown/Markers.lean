import Mathlib.Data.List.Destutter
import Mathlib.Data.List.SplitBy
import ReportPress.Markdown.Blocks

/-!
Page markers follow the page changes. Blocks without a page number neither start nor end a page, so
the pages that are marked are the page numbers of the blocks with repetitions in a row taken as one,
and where blocks are rendered in two parts, only the first marker of the second part can be one too
many. There are no lines where the number of a page has no text. Main statements: `exists_isMarked`
and `blocksLines?_append`, put together in `markers_follow_pages`.
-/

namespace ReportPress.Markdown

/-- The page numbers of blocks in order, without the blocks that have none. -/
def pages (blocks : List ContentBlock) : List Int := blocks.filterMap ContentBlock.page?

/-- A block, and the page that is marked in front of it, if one is. -/
structure MarkedBlock where
  mark : Option Int
  block : ContentBlock

/-- Lines with others behind them, if there are both. -/
def append? (front back : Option (List String)) : Option (List String) := do
  return (← front) ++ (← back)

/-- The marker, if there is one, and the lines of the block. -/
def MarkedBlock.lines? (marked : MarkedBlock) : Option (List String) :=
  append? ((marked.mark.map pageMarker?).getD (some [])) (some (blockLines marked.block))

/-- The pages that are marked, in order. -/
def marks (marked : List MarkedBlock) : List Int := marked.filterMap MarkedBlock.mark

/-- The blocks with marks on some of those that have a page number, each with its own, so that the
pages marked are the page numbers with repetitions in a row taken as one. -/
structure IsMarked (blocks : List ContentBlock) (marked : List MarkedBlock) : Prop where
  blocks_eq : marked.map MarkedBlock.block = blocks
  page?_eq : ∀ m ∈ marked, ∀ page ∈ m.mark, m.block.page? = some page
  marks_eq : marks marked = (pages blocks).destutter (· ≠ ·)

/-! ### Marks -/

/-- The page that is marked in front of a block on `page`, where the last page seen is `current`. -/
def mark? (current page : Option Int) : Option Int := if current = page then none else page

/-- The blocks with the pages that are marked, where the last page seen is `current`. -/
def markedFrom (current : Option Int) : List ContentBlock → List MarkedBlock
  | [] => []
  | block :: rest => ⟨mark? current block.page?, block⟩ :: markedFrom (block.page?.or current) rest

section

variable {current : Option Int} {blocks : List ContentBlock} {block : ContentBlock} {page : Int}

theorem markerLines?_eq (current page : Option Int) :
    markerLines? current page = ((mark? current page).map pageMarker?).getD (some []) := by
  unfold markerLines? mark?
  cases page with
  | none => simp
  | some number =>
    by_cases h : current = some number
    · simp [h]
    · simp [h]

theorem append?_assoc (a b c : Option (List String)) :
    append? (append? a b) c = append? a (append? b c) := by
  cases a <;> cases b <;> cases c <;> simp [append?]

theorem append?_nil_left (lines : Option (List String)) : append? (some []) lines = lines := by
  cases lines <;> rfl

theorem blocksLinesFrom?_cons (current : Option Int) (block : ContentBlock)
    (rest : List ContentBlock) : blocksLinesFrom? current (block :: rest) =
      append? (markerLines? current block.page?) (append? (some (blockLines block))
        (blocksLinesFrom? (block.page?.or current) rest)) := by
  rw [blocksLinesFrom?]
  cases markerLines? current block.page? <;>
    cases blocksLinesFrom? (block.page?.or current) rest <;> simp [append?]

theorem map_flatten_mapM_cons {α : Type} (f : α → Option (List String)) (a : α) (rest : List α) :
    ((a :: rest).mapM f).map List.flatten = append? (f a) ((rest.mapM f).map List.flatten) := by
  rw [List.mapM_cons]
  cases f a <;> cases rest.mapM f <;> simp [append?]

theorem blocksLinesFrom?_eq (current : Option Int) (blocks : List ContentBlock) :
    blocksLinesFrom? current blocks =
      ((markedFrom current blocks).mapM MarkedBlock.lines?).map List.flatten := by
  induction blocks generalizing current with
  | nil => rfl
  | cons block rest ih =>
    rw [blocksLinesFrom?_cons, markedFrom, map_flatten_mapM_cons, MarkedBlock.lines?, append?_assoc,
      markerLines?_eq, ih]

theorem map_block_markedFrom (current : Option Int) (blocks : List ContentBlock) :
    (markedFrom current blocks).map MarkedBlock.block = blocks := by
  induction blocks generalizing current with
  | nil => rfl
  | cons block rest ih => rw [markedFrom, List.map_cons, ih]

theorem page?_of_mem_markedFrom {m : MarkedBlock} (h : m ∈ markedFrom current blocks)
    (hPage : page ∈ m.mark) : m.block.page? = some page := by
  induction blocks generalizing current with
  | nil => cases h
  | cons block rest ih =>
    rw [markedFrom, List.mem_cons] at h
    rcases h with rfl | hRest
    · rw [mark?] at hPage
      split at hPage
      · cases hPage
      · exact hPage
    · exact ih hRest

theorem pages_cons_of_none (h : block.page? = none) : pages (block :: blocks) = pages blocks :=
  List.filterMap_cons_none h

theorem pages_cons_of_some (h : block.page? = some page) :
    pages (block :: blocks) = page :: pages blocks :=
  List.filterMap_cons_some h

/-- Behind a page, all page numbers are marked but those that repeat the last one. -/
theorem cons_marks_markedFrom (page : Int) (blocks : List ContentBlock) :
    page :: marks (markedFrom (some page) blocks) = (pages blocks).destutter' (· ≠ ·) page := by
  induction blocks generalizing page with
  | nil => rfl
  | cons block rest ih =>
    cases hPage : block.page? with
    | none =>
      rw [pages_cons_of_none hPage, ← ih page]
      simp [markedFrom, marks, mark?, hPage]
    | some number =>
      rw [pages_cons_of_some hPage]
      by_cases hSame : page = number
      · subst hSame
        rw [List.destutter'_cons_neg _ (by simp), ← ih page]
        simp [markedFrom, marks, mark?, hPage]
      · rw [List.destutter'_cons_pos _ hSame, ← ih number]
        simp [markedFrom, marks, mark?, hPage, hSame]

theorem marks_markedFrom_none (blocks : List ContentBlock) :
    marks (markedFrom none blocks) = (pages blocks).destutter (· ≠ ·) := by
  induction blocks with
  | nil => rfl
  | cons block rest ih =>
    cases hPage : block.page? with
    | none =>
      rw [pages_cons_of_none hPage, ← ih]
      simp [markedFrom, marks, mark?, hPage]
    | some number =>
      rw [pages_cons_of_some hPage, List.destutter_cons', ← cons_marks_markedFrom]
      simp [markedFrom, marks, mark?, hPage]

/-- The lines of blocks are those of the blocks with some page numbers marked. -/
theorem exists_isMarked (blocks : List ContentBlock) : ∃ marked, IsMarked blocks marked ∧
    blocksLines? blocks = (marked.mapM MarkedBlock.lines?).map List.flatten :=
  ⟨markedFrom none blocks,
    ⟨map_block_markedFrom none blocks, fun _ h _ hPage => page?_of_mem_markedFrom h hPage,
      marks_markedFrom_none blocks⟩,
    blocksLinesFrom?_eq none blocks⟩

end

/-! ### Runs of pages -/

/-- Taking repetitions in a row as one leaves one number for each run of equal ones. -/
theorem length_splitByLoop (rest : List Int) (page : Int) (run : List Int)
    (runs : List (List Int)) : (List.splitBy.loop (· == ·) rest page run runs).length =
      runs.length + (rest.destutter' (· ≠ ·) page).length := by
  induction rest generalizing page run runs with
  | nil => simp [List.splitBy.loop]
  | cons number rest ih =>
    by_cases hSame : page = number
    · subst hSame
      rw [List.destutter'_cons_neg _ (by simp), List.splitBy.loop]
      simp only [beq_self_eq_true]
      exact ih page _ runs
    · rw [List.destutter'_cons_pos _ hSame, List.splitBy.loop]
      simp only [beq_eq_false_iff_ne.2 hSame]
      rw [ih, List.length_cons, List.length_cons]
      omega

theorem length_destutter_eq (numbers : List Int) :
    (numbers.destutter (· ≠ ·)).length = (numbers.splitBy (· == ·)).length := by
  cases numbers with
  | nil => rfl
  | cons page rest =>
    rw [List.destutter_cons', List.splitBy, length_splitByLoop, List.length_nil, Nat.zero_add]

/-! ### Two parts -/

section

variable {current : Option Int} {blocks : List ContentBlock}

theorem blocksLinesFrom?_append (current : Option Int) (xs ys : List ContentBlock) :
    blocksLinesFrom? current (xs ++ ys) =
      append? (blocksLinesFrom? current xs)
        (blocksLinesFrom? ((pages xs).getLast?.or current) ys) := by
  induction xs generalizing current with
  | nil => exact (append?_nil_left _).symm
  | cons block rest ih =>
    have hLast : ((pages rest).getLast?.or (block.page?.or current)) =
        (pages (block :: rest)).getLast?.or current := by
      cases hPage : block.page? with
      | none => rw [pages_cons_of_none hPage, Option.none_or]
      | some page =>
        rw [pages_cons_of_some hPage, List.getLast?_cons, Option.some_or, Option.some_or]
        cases (pages rest).getLast? <;> rfl
    rw [List.cons_append, blocksLinesFrom?_cons, blocksLinesFrom?_cons, ih, hLast, append?_assoc,
      append?_assoc]

theorem blocksLinesFrom?_of_pages_eq_nil (h : pages blocks = []) :
    blocksLinesFrom? current blocks = some (blocks.flatMap blockLines) := by
  induction blocks generalizing current with
  | nil => rfl
  | cons block rest ih =>
    cases hPage : block.page? with
    | some page =>
      rw [pages_cons_of_some hPage] at h
      cases h
    | none =>
      rw [pages_cons_of_none hPage] at h
      rw [blocksLinesFrom?_cons, hPage, ih h, List.flatMap_cons]
      rfl

theorem exists_of_head?_pages {page : Int} (h : (pages blocks).head? = some page) :
    ∃ front block back, blocks = front ++ block :: back ∧ pages front = [] ∧
      block.page? = some page := by
  induction blocks with
  | nil => cases h
  | cons block rest ih =>
    cases hPage : block.page? with
    | none =>
      rw [pages_cons_of_none hPage] at h
      obtain ⟨front, first, back, rfl, hFront, hFirst⟩ := ih h
      exact ⟨block :: front, first, back, rfl, (pages_cons_of_none hPage).trans hFront, hFirst⟩
    | some number =>
      rw [pages_cons_of_some hPage] at h
      exact ⟨[], block, rest, rfl, rfl, hPage.trans h⟩

end

/-- The lines of blocks, and the same lines less the marker of the first block that has a page
number. -/
def LacksFirstMarker (blocks : List ContentBlock) (lines : Option (List String)) : Prop :=
  ∃ front block back page rest, blocks = front ++ block :: back ∧ pages front = [] ∧
    block.page? = some page ∧
      blocksLines? blocks = append? (some (front.flatMap blockLines))
          (append? (pageMarker? page) (append? (some (blockLines block)) rest)) ∧
        lines = append? (some (front.flatMap blockLines)) (append? (some (blockLines block)) rest)

/-- Two parts are rendered as the whole is, but for the first marker of the second part where it
repeats the last page number of the first. -/
theorem blocksLines?_append (xs ys : List ContentBlock) :
    (((pages xs).getLast? ≠ (pages ys).head? ∨ pages ys = []) ∧
      blocksLines? (xs ++ ys) = append? (blocksLines? xs) (blocksLines? ys)) ∨
    ((∃ page, (pages xs).getLast? = some page ∧ (pages ys).head? = some page) ∧
      ∃ lines, LacksFirstMarker ys lines ∧
        blocksLines? (xs ++ ys) = append? (blocksLines? xs) lines) := by
  have hAlone : blocksLines? ys = blocksLinesFrom? none ys := rfl
  have hSplit : blocksLines? (xs ++ ys) =
      append? (blocksLines? xs) (blocksLinesFrom? (pages xs).getLast? ys) := by
    rw [blocksLines?, blocksLines?, blocksLinesFrom?_append, Option.or_none]
  rw [hSplit]
  cases hFirst : (pages ys).head? with
  | none =>
    have hNone := List.head?_eq_none_iff.1 hFirst
    rw [hAlone, blocksLinesFrom?_of_pages_eq_nil hNone, blocksLinesFrom?_of_pages_eq_nil hNone]
    exact .inl ⟨.inr hNone, rfl⟩
  | some page =>
    obtain ⟨front, block, back, rfl, hFront, hPage⟩ := exists_of_head?_pages hFirst
    -- behind the blocks without a page number the last page seen is still that of the first part
    have hParts (current : Option Int) : blocksLinesFrom? current (front ++ block :: back) =
        append? (some (front.flatMap blockLines)) (append? (markerLines? current (some page))
          (append? (some (blockLines block)) (blocksLinesFrom? (some page) back))) := by
      rw [blocksLinesFrom?_append, blocksLinesFrom?_of_pages_eq_nil hFront, hFront,
        blocksLinesFrom?_cons, hPage]
      rfl
    rw [hParts none] at hAlone
    rw [hParts]
    by_cases hSame : (pages xs).getLast? = some page
    · have hLacks : LacksFirstMarker (front ++ block :: back) (append?
          (some (front.flatMap blockLines))
            (append? (some (blockLines block)) (blocksLinesFrom? (some page) back))) :=
        ⟨front, block, back, page, _, rfl, hFront, hPage, hAlone, rfl⟩
      refine .inr ⟨⟨page, hSame, rfl⟩, _, hLacks, ?_⟩
      rw [markerLines?, if_pos hSame, append?_nil_left]
    · have hMarked :
          markerLines? (pages xs).getLast? (some page) = markerLines? none (some page) := by
        simp [markerLines?, hSame]
      exact .inl ⟨.inl hSame, by rw [hMarked, hAlone]⟩

/-- The lines of blocks are the lines of each block in order, with a marker in front of some. The
pages marked are the page numbers with repetitions in a row taken as one, so there are as many
markers as runs of equal page numbers; and the lines of two parts make up those of the whole, less
the first marker of the second part where it repeats the last page number of the first. -/
theorem markers_follow_pages :
    (∀ blocks, ∃ marked, IsMarked blocks marked ∧
      blocksLines? blocks = (marked.mapM MarkedBlock.lines?).map List.flatten ∧
        (marks marked).length = ((pages blocks).splitBy (· == ·)).length) ∧
    ∀ xs ys,
      (((pages xs).getLast? ≠ (pages ys).head? ∨ pages ys = []) ∧
        blocksLines? (xs ++ ys) = append? (blocksLines? xs) (blocksLines? ys)) ∨
      ((∃ page, (pages xs).getLast? = some page ∧ (pages ys).head? = some page) ∧
        ∃ lines, LacksFirstMarker ys lines ∧
          blocksLines? (xs ++ ys) = append? (blocksLines? xs) lines) := by
  refine ⟨fun blocks => ?_, blocksLines?_append⟩
  obtain ⟨marked, hMarked, hLines⟩ := exists_isMarked blocks
  refine ⟨marked, hMarked, hLines, ?_⟩
  rw [hMarked.marks_eq, length_destutter_eq]

end ReportPress.Markdown
