import ReportPress.Proofs.Json.Display
import ReportPress.Proofs.Markdown.Finite

/-!
Whole numbers in the Markdown of a report. A whole number of the first page reads the same whether
it is given as one or as a binary64 number, and it is shown or left out alike, so a report has the
same document as the report with all of them given as whole numbers. Numbers inside objects are left
as they are, since an object is shown as a literal. Main statements: `document_unified` and
`document_of_unified_eq`.
-/

namespace ReportPress

namespace Binary64

/-- Of the numbers that are whole, only the zeros are 0. -/
theorem isZero_of_toInt? {x : Binary64} {n : Int} (h : x.toInt? = some n) :
    x.isZero = (n == 0) := by
  cases x with
  | finite negative m =>
    obtain ⟨count, hCount, rfl⟩ := Option.map_eq_some_iff.1 h
    rw [Magnitude.toNat?] at hCount
    split at hCount
    · rename_i hWhole
      obtain rfl := Option.some.inj hCount
      have hUnits : m.units = 0 ↔ m.units / unitsPerOne = 0 := by
        rw [Nat.div_eq_zero_iff_lt unitsPerOne_pos]
        exact ⟨fun h => h ▸ unitsPerOne_pos, fun h => (Nat.mod_eq_of_lt h).symm.trans hWhole⟩
      generalize m.units / unitsPerOne = count at hUnits ⊢
      rw [isZero, Bool.eq_iff_iff]
      cases negative <;> simp [hUnits]
    · cases hCount
  | _ => cases h

end Binary64

namespace Json

mutual

/-- The value with every number that is whole given as a whole number, also in lists at any depth;
objects are left as they are. -/
def unified : Json → Json
  | .float x =>
    match x.toInt? with
    | some n => .int n
    | none => .float x
  | .arr items => .arr (unifiedItems items)
  | value => value

/-- `unified` of each item. -/
def unifiedItems : List Json → List Json
  | [] => []
  | item :: rest => unified item :: unifiedItems rest

end

theorem unifiedItems_eq_map (items : List Json) : unifiedItems items = items.map unified := by
  induction items with
  | nil => rfl
  | cons item rest ih => rw [unifiedItems, ih, List.map_cons]

theorem unified_arr (items : List Json) : unified (.arr items) = .arr (items.map unified) := by
  rw [unified, unifiedItems_eq_map]

theorem unified_getD (value : Option Json) :
    (value.map unified).getD .null = (value.getD .null).unified := by
  cases value <;> rfl

theorem unified_int (n : Int) : unified (.int n) = .int n := rfl

theorem unified_of_toInt? {x : Binary64} {n : Int} (h : x.toInt? = some n) :
    unified (.float x) = .int n := by
  rw [unified, h]

/-- A binary64 number is either whole and given as such, or left as it is. -/
theorem unified_float (x : Binary64) :
    (∃ n, x.toInt? = some n ∧ unified (.float x) = .int n) ∨ unified (.float x) = .float x := by
  cases h : x.toInt? with
  | some n => exact .inl ⟨n, rfl, unified_of_toInt? h⟩
  | none => exact .inr (by rw [unified, h])

@[simp] theorem isTruthy_unified (value : Json) : value.unified.isTruthy = value.isTruthy := by
  cases value with
  | float x =>
    rcases unified_float x with ⟨n, hWhole, hUnified⟩ | hUnified
    · rw [hUnified, isTruthy, isTruthy, Binary64.isZero_of_toInt? hWhole]
      rfl
    · rw [hUnified]
  | arr items => rw [unified_arr, isTruthy, isTruthy, List.isEmpty_map]
  | _ => rfl

@[simp] theorem display?_unified (value : Json) : value.unified.display? = value.display? := by
  induction value using parts_induction with
  | step value ih =>
    cases value with
    | float x =>
      rcases unified_float x with ⟨n, hWhole, hUnified⟩ | hUnified
      · rw [hUnified, display?, display?, floatText?, hWhole]
      · rw [hUnified]
    | arr items =>
      have hItems : (items.map unified).mapM display? = items.mapM display? := by
        rw [List.mapM_map]
        exact mapM_congr ih
      rw [unified_arr, display?_arr, display?_arr, hItems]
    | _ => rfl

theorem unified_eq_null_iff {value : Json} : value.unified = .null ↔ value = .null := by
  cases value with
  | float x =>
    rcases unified_float x with ⟨n, -, hUnified⟩ | hUnified <;> simp [hUnified]
  | arr items => simp [unified_arr]
  | _ => rfl

@[simp] theorem displayText?_unified (value : Json) :
    value.unified.displayText? = value.displayText? := by
  by_cases h : value = .null
  · subst h
    rfl
  · rw [displayText?_of_ne_null h, displayText?_of_ne_null (unified_eq_null_iff.not.2 h),
      display?_unified]

end Json

/-- The author with all whole numbers given as such. -/
def Author.unified (author : Author) : Author :=
  ⟨author.name.map .unified, author.email.map .unified, author.phone.map .unified, author.extras⟩

/-- The summary paragraph with all whole numbers given as such. -/
def SummaryParagraph.unified (paragraph : SummaryParagraph) : SummaryParagraph :=
  ⟨paragraph.heading.map .unified, paragraph.content.map .unified, paragraph.extras⟩

/-- The first page with all whole numbers given as such. -/
def FirstPage.unified (page : FirstPage) : FirstPage :=
  ⟨fun field => (page.value? field).map .unified,
    page.authors.map (Option.map (List.map Author.unified)),
    page.bulletPoints.map (Option.map (List.map Json.unified)),
    page.summaryParagraphs.map (Option.map (List.map SummaryParagraph.unified)), page.extras⟩

/-- The report with all whole numbers of the first page given as such. -/
def Report.unified (report : Report) : Report :=
  { report with firstPage := report.firstPage.map FirstPage.unified }

theorem FirstPage.value_unified (page : FirstPage) (field : PageField) :
    page.unified.value field = (page.value field).unified :=
  Json.unified_getD (page.value? field)

theorem FirstPage.displayTitle?_unified (page : FirstPage) :
    page.unified.displayTitle? = page.displayTitle? := by
  simp only [displayTitle?, value_unified, Json.isTruthy_unified, Json.displayText?_unified]

theorem FirstPage.metadataRow?_unified (page : FirstPage) (field : PageField) :
    page.unified.metadataRow? field = page.metadataRow? field := by
  have hText (value : Json) : metadataText? field value.unified = metadataText? field value := by
    rw [metadataText?, Json.display?_unified, metadataText?]
  rw [metadataRow?, metadataRow?, value_unified]
  split
  · rename_i hNull
    rw [Json.unified_eq_null_iff.1 hNull]
  · rename_i hValue
    split
    · rename_i hNull
      exact absurd (Json.unified_eq_null_iff.2 hNull) hValue
    · rw [hText]

theorem FirstPage.metadataRows?_unified (page : FirstPage) :
    page.unified.metadataRows? = page.metadataRows? := by
  rw [metadataRows?, mapM_congr fun field _ => page.metadataRow?_unified field, metadataRows?]

namespace Markdown

theorem subtitleLines?_unified (page : FirstPage) :
    subtitleLines? page.unified = subtitleLines? page := by
  simp only [subtitleLines?, contentLines?, FirstPage.value_unified, Json.isTruthy_unified,
    Json.displayText?_unified]

theorem metadataLines?_unified (page : FirstPage) :
    metadataLines? page.unified = metadataLines? page := by
  rw [metadataLines?, FirstPage.metadataRows?_unified, metadataLines?]

theorem authorLines?_unified (author : Author) :
    authorLines? author.unified = authorLines? author := by
  simp only [authorLines?, detailLine?, contentLines?, Author.unified, Json.unified_getD,
    Json.isTruthy_unified, Json.displayText?_unified]

theorem summaryLines?_unified (paragraph : SummaryParagraph) :
    summaryLines? paragraph.unified = summaryLines? paragraph := by
  simp only [summaryLines?, headingLines?, contentLines?, SummaryParagraph.unified,
    Json.unified_getD, Json.isTruthy_unified, Json.displayText?_unified]

theorem firstPageLines?_unified (page : FirstPage) :
    firstPageLines? page.unified = firstPageLines? page := by
  have hPoints : ∀ point ∈ given page.bulletPoints,
      pointLine? point.unified = pointLine? point :=
    fun point _ => by rw [pointLine?, Json.displayText?_unified, pointLine?]
  unfold firstPageLines?
  rw [FirstPage.displayTitle?_unified, subtitleLines?_unified, metadataLines?_unified]
  simp only [FirstPage.unified, given_map]
  rw [sectionLines?_map fun author _ => authorLines?_unified author, sectionLines?_map hPoints,
    sectionLines?_map fun paragraph _ => summaryLines?_unified paragraph]

/-- Giving all whole numbers of the first page as such makes no difference in the Markdown. -/
theorem document_unified (report : Report) (schemaName : LooseText) (usage : TokenUsage)
    (cost : Cost) :
    document report.unified schemaName usage cost = document report schemaName usage cost := by
  have hPage : firstPageLines? report.unified.page = firstPageLines? report.page := by
    obtain ⟨firstPage, blocks, extras⟩ := report
    cases firstPage with
    | none => rfl
    | some page => exact firstPageLines?_unified page
  exact document_eq_of_lines hPage rfl schemaName usage cost

/-- Two reports that are the same but for whole numbers of the first page, given as whole numbers or
as binary64 numbers, have the same Markdown. -/
theorem document_of_unified_eq {report other : Report} (h : report.unified = other.unified)
    (schemaName : LooseText) (usage : TokenUsage) (cost : Cost) :
    document report schemaName usage cost = document other schemaName usage cost := by
  rw [← document_unified report, h, document_unified]

/-- A report with an amount and a zero among its fields, alone and in lists. -/
def pricedValue (amount zero : Json) : PageField → Option Json
  | .reportTitle => some zero
  | .targetPrice => some amount
  | .marketPrice => some zero
  | .rating => some (.arr [amount, .arr [zero]])
  | _ => none
def pricedReport (amount zero : Json) : Report :=
  ⟨some ⟨pricedValue amount zero, none, some (some [zero, .arr [.arr [amount]]]), none, []⟩,
    none, []⟩

theorem unified_pricedReport (amount zero : Json) :
    (pricedReport amount zero).unified = pricedReport amount.unified zero.unified := by
  have hValue : (fun field => (pricedValue amount zero field).map Json.unified) =
      pricedValue amount.unified zero.unified := by
    funext field
    cases field <;> simp [pricedValue, Json.unified_arr]
  simp [pricedReport, Report.unified, FirstPage.unified, hValue, Json.unified_arr]

/-- The greatest power of two that is a binary64 number, given as one, and the negative zero. -/
def greatPower : Nat := Nat.pow 2 1023
def greatNumber : Binary64 := .ofRatio false greatPower 1
def negativeZero : Binary64 := .finite true .zero

theorem toInt?_greatNumber : greatNumber.toInt? = some (greatPower : Int) := by decide +kernel

theorem toInt?_negativeZero : negativeZero.toInt? = some 0 := by decide +kernel

theorem document_of_unified_eq_priced :
    (pricedReport (.float greatNumber) (.float negativeZero)).unified =
        (pricedReport (.int greatPower) (.int 0)).unified ∧
      document (pricedReport (.float greatNumber) (.float negativeZero)) "default" .zero (.whole 0) =
        document (pricedReport (.int greatPower) (.int 0)) "default" .zero (.whole 0) := by
  have hUnified : (pricedReport (.float greatNumber) (.float negativeZero)).unified =
      (pricedReport (.int greatPower) (.int 0)).unified := by
    rw [unified_pricedReport, unified_pricedReport, Json.unified_of_toInt? toInt?_greatNumber,
      Json.unified_of_toInt? toInt?_negativeZero, Json.unified_int, Json.unified_int]
  exact ⟨hUnified, document_of_unified_eq hUnified "default" .zero (.whole 0)⟩

end Markdown

end ReportPress
