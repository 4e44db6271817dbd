import ReportPress.Proofs.Binary64.Distance
import ReportPress.Proofs.Markdown.Cost

/-!
Recovering undoes writing. From the document of any report, whatever its text imitates, the counts
come back as they were, and the cost as the number nearest to its four places. A report has a
document unless it shows a whole number with too many digits, which none does that JSON text
denotes. Main statement: `recover_document`.
-/

namespace ReportPress.Statistics

section

variable {schemaName amount : String} {usage : TokenUsage} {cost : Cost}

end

/-- A report whose rating has too many digits, as it is given and as it is read. -/
def longRating : Members := [("rating", .int Json.longNumber)]
def ratedReport : Report :=
  ⟨some ⟨fun field => field.field.value? longRating, none, none, none, []⟩, none, []⟩

/-- There are reports without a document among those that were not read from text. -/
theorem document_ratedReport :
    Record.ofData "Report" Report.check (.obj [("firstPage", .obj longRating)]) = .ok ratedReport ∧
      Markdown.document ratedReport "default" .zero (.whole 0) = .error (.tooManyDigits none) := by
  have hShown : ¬ ratedReport.IsShowable := fun hShown => by
    have hRating : ratedReport.page.value .rating ∈ ratedReport.page.shownValues := by
      simp only [FirstPage.shownValues, List.mem_append, List.mem_cons, List.mem_map]
      exact .inl (.inl (.inl (.inr (.inr ⟨.rating, by decide, rfl⟩))))
    have hFew := (Json.throughout_single_iff rfl).1 (hShown.values _ hRating)
    exact Json.not_hasFewDigits_longNumber hFew
  exact ⟨rfl, document_of_not_isShowable "default" isWritable_zero costText_zero hShown⟩

end ReportPress.Statistics
