import ReportPress.Artifact.Save
import ReportPress.Proofs.Json.Limits
import ReportPress.Proofs.Json.LineEnds
import ReportPress.Proofs.Report.Shape
import ReportPress.Proofs.Workspace.Files

/-!
The JSON artifact and the report that it holds. The text of a report that was accepted, as data or
as JSON text, is loaded exactly if the report keeps the limits on what is read; what is loaded is
the report with every number that is not finite as null, and is written as the same text again. Main
statement: `load_artifactText`.
-/

namespace ReportPress

namespace Report

/-- The report was accepted, given as data or as JSON text; objects in data have different keys. -/
inductive IsAccepted (report : Report) : Prop
  | data (raw : Json) (hKeys : Json.Throughout Json.HasDistinctKeys raw)
      (hCheck : check raw = .ok report)
  | text (text : String) (hText : ofText text = .ok report)

/-- All whole numbers of the report have few enough digits to be written. -/
def HasFewDigits (report : Report) : Prop := Json.Throughout Json.HasFewDigits report.toJson

/-- The report keeps the limits on what is read: all whole numbers are written in few enough
characters, a minus sign counted, and it does not nest too deep. -/
structure IsReadable (report : Report) : Prop where
  numerals : Json.Throughout Json.HasShortNumerals report.toJson
  nesting : report.toJson.nesting ≤ Json.Limits.recordNesting

section

variable {report : Report}

instance : Decidable report.IsReadable :=
  decidable_of_iff (_ ∧ _) ⟨fun h => ⟨h.1, h.2⟩, fun h => ⟨h.numerals, h.nesting⟩⟩

theorem IsAccepted.isKept (h : report.IsAccepted) : report.IsKept := by
  cases h with
  | data raw hKeys hCheck => exact isCodec.kept hKeys hCheck
  | text text hText =>
    obtain ⟨value, -, hKeys, hCheck⟩ := exists_read_of_ofText hText
    exact isCodec.kept hKeys hCheck

theorem IsReadable.hasFewDigits (h : report.IsReadable) : report.HasFewDigits :=
  h.numerals.mono fun _ => Json.HasShortNumerals.hasFewDigits

/-- What it takes for a report to have a text, and what the text is. -/
theorem artifactText_eq_ok_iff {text : String} : report.artifactText = .ok text ↔
    (∀ free ∈ report.freeValues, free.nesting < Record.freeDepth) ∧ report.HasFewDigits ∧
      report.toJson.finite.indented = text := by
  have hWritable : report.toJson.finite.isWritable = true ↔ report.HasFewDigits := by
    rw [Json.isWritable_iff]
    exact ⟨fun h => h.of_finite fun _ => Json.HasFewDigits.of_finite,
      fun h => h.finite fun _ => Json.HasFewDigits.finite⟩
  rw [artifactText]
  cases hDump : report.dump? with
  | none =>
    rw [← Option.not_isSome_iff_eq_none, isSome_dump?_iff] at hDump
    simp [hDump]
  | some dumped =>
    obtain ⟨hFree, rfl⟩ := dump?_eq_some_iff.1 hDump
    rw [and_iff_right hFree, ← hWritable]
    simp only [Json.text?]
    split <;> rename_i hSome <;> split at hSome <;> simp_all

theorem IsReadable.artifactText (h : report.IsReadable) :
    report.artifactText = .ok report.toJson.finite.indented := by
  refine artifactText_eq_ok_iff.2 ⟨fun free hFree => ?_, h.hasFewDigits, rfl⟩
  exact Nat.lt_of_lt_of_le (inside_of_mem_freeValues hFree).nesting_lt
    (Nat.le_trans h.nesting (by decide))

theorem IsReadable.finite (h : report.IsReadable) : report.finite.IsReadable := by
  constructor
  · rw [isCodec.toJson_finite]
    exact h.numerals.finite fun _ => Json.HasShortNumerals.finite
  · rw [isCodec.toJson_finite, Json.nesting_finite]
    exact h.nesting

section

variable (hKept : report.IsKept)
include hKept

/-- The text of a report that keeps the limits is read as the report with all numbers finite. -/
theorem ofText_indented (h : report.IsReadable) :
    ofText report.toJson.finite.indented = .ok report.finite := by
  have hKeys := (isCodec.distinct hKept).finite fun _ => Json.HasDistinctKeys.finite
  have hCheck := isCodec.check_toJson (isCodec.kept_finite hKept)
  have hFinite := h.finite
  rw [isCodec.toJson_finite] at hCheck
  have hRead := Json.read_indented hKeys (isCodec.toJson_finite report ▸ hFinite.numerals)
    (isCodec.toJson_finite report ▸ hFinite.nesting)
  rw [ofText, Record.ofText, hRead]
  simp only [hCheck]
  rfl

/-- The text of a report is read exactly if the report keeps the limits. -/
theorem exists_ofText_indented_iff :
    (∃ loaded, ofText report.toJson.finite.indented = .ok loaded) ↔ report.IsReadable := by
  refine ⟨fun ⟨loaded, hLoaded⟩ => ?_, fun h => ⟨_, ofText_indented hKept h⟩⟩
  have hKeys := (isCodec.distinct hKept).finite fun _ => Json.HasDistinctKeys.finite
  obtain ⟨value, hRead, -, -⟩ := exists_read_of_ofText hLoaded
  obtain ⟨hNumerals, hNesting⟩ := (Json.exists_read_indented_iff hKeys).1 ⟨value, hRead⟩
  exact ⟨hNumerals.of_finite fun _ => Json.HasShortNumerals.of_finite,
    Json.nesting_finite report.toJson ▸ hNesting⟩

end

end

end Report

namespace Artifact

section

variable {w : Workspace} {path : Path} {report : Report} {text : String}

theorem load_eq_ofText (hText : report.artifactText = .ok text)
    (hBytes : w.readBytes path = .ok (Text.Utf8.encode text)) :
    load w path = (Report.ofText text).mapError .rejected := by
  obtain ⟨-, -, rfl⟩ := Report.artifactText_eq_ok_iff.1 hText
  rw [load, Workspace.readText, hBytes]
  simp only [Text.Utf8.decode_encode]
  rw [Json.unifyLineEnds_indented, String.ofList_toList]

variable (hKept : report.IsKept)
include hKept

theorem load_of_readBytes (hReadable : report.IsReadable) (hText : report.artifactText = .ok text)
    (hBytes : w.readBytes path = .ok (Text.Utf8.encode text)) :
    load w path = .ok report.finite := by
  obtain ⟨-, -, hSame⟩ := Report.artifactText_eq_ok_iff.1 hText
  rw [load_eq_ofText hText hBytes, ← hSame, Report.ofText_indented hKept hReadable]
  rfl

/-- The text of a report is loaded exactly if the report keeps the limits on what is read. -/
theorem exists_load_iff (hText : report.artifactText = .ok text)
    (hBytes : w.readBytes path = .ok (Text.Utf8.encode text)) :
    (∃ loaded, load w path = .ok loaded) ↔ report.IsReadable := by
  obtain ⟨-, -, hSame⟩ := Report.artifactText_eq_ok_iff.1 hText
  rw [← Report.exists_ofText_indented_iff hKept, hSame, load_eq_ofText hText hBytes]
  simp only [Except.mapError_eq_ok_iff]

end

/-- The least number with as many digits as a number may have in text. -/
def longNumber : Nat := 10 ^ (Text.digitLimit - 1)

theorem length_longNumber : longNumber.repr.length = Text.digitLimit := by
  refine Nat.le_antisymm ?_ ?_
  · rw [Nat.length_repr_le_iff (by decide)]
    exact Nat.pow_lt_pow_right (by decide) (by decide)
  · have hMore : ¬ longNumber.repr.length ≤ Text.digitLimit - 1 := by
      rw [Nat.length_repr_le_iff (by decide)]
      exact Nat.lt_irrefl _
    omega

/-- A report whose text cannot be loaded although its numbers have few enough digits. -/
def IsUnloadable (report : Report) : Prop :=
  report.IsAccepted ∧ report.HasFewDigits ∧ ∃ text, report.artifactText = .ok text ∧
    ∀ (w : Workspace) (path : Path), w.readBytes path = .ok (Text.Utf8.encode text) →
      ∀ loaded, load w path ≠ .ok loaded

theorem isUnloadable_ofEdition {edition : Json}
    (hKeys : Json.Throughout Json.HasDistinctKeys edition)
    (hFew : Json.Throughout Json.HasFewDigits edition) (hDepth : edition.nesting < Record.freeDepth)
    (hNot : ¬ (Report.ofEdition edition).IsReadable) : IsUnloadable (.ofEdition edition) := by
  have hAccepted : (Report.ofEdition edition).IsAccepted :=
    .data _ (Report.distinct_edition hKeys) (Report.check_ofEdition edition)
  have hDigits : (Report.ofEdition edition).HasFewDigits :=
    Json.throughout_obj_iff.2 ⟨trivial, List.forall_mem_singleton.2 hFew⟩
  have hFree : ∀ free ∈ (Report.ofEdition edition).freeValues, free.nesting < Record.freeDepth := by
    simpa [Report.freeValues, Report.ofEdition, Report.blocks] using hDepth
  have hText := Report.artifactText_eq_ok_iff.2 ⟨hFree, hDigits, rfl⟩
  refine ⟨hAccepted, hDigits, _, hText, fun w path hBytes loaded hLoaded => hNot ?_⟩
  exact (exists_load_iff hAccepted.isKept hText hBytes).1 ⟨loaded, hLoaded⟩

/-- The sign of a number counts where the number is read, but not where it is written. -/
theorem isUnloadable_long : IsUnloadable (.ofEdition (.int (-longNumber))) := by
  have hLength : (-(longNumber : Int)).natAbs.repr.length = Text.digitLimit := by
    rw [Int.natAbs_neg, Int.natAbs_natCast, length_longNumber]
  refine isUnloadable_ofEdition (Json.distinct_of_parts_nil rfl) ?_ (by decide) fun hReadable => ?_
  · exact (Json.throughout_single_iff rfl).2 (Nat.le_of_eq hLength)
  · have hNegative : -(longNumber : Int) < 0 := by
      have hPos : 0 < longNumber := Nat.pow_pos (by decide)
      omega
    have hNumerals := (Json.throughout_obj_iff.1 hReadable.numerals).2 _ (List.mem_singleton_self _)
    rw [Json.throughout_single_iff rfl, Json.HasShortNumerals, Text.length_intChars, hLength,
      if_pos hNegative] at hNumerals
    exact Nat.not_succ_le_self _ hNumerals

/-- What may be written nests deeper than what may be read. -/
theorem isUnloadable_deep : IsUnloadable (.ofEdition (Report.nestedLists 200)) := by
  refine isUnloadable_ofEdition (Report.distinct_nestedLists 200)
    (Report.throughout_nestedLists trivial (fun _ => trivial) 200) ?_ fun hReadable => ?_
  · rw [Report.nesting_nestedLists]
    decide
  · have hPart : Json.Inside (Report.nestedLists 200) (Report.ofEdition
        (Report.nestedLists 200)).toJson :=
      .single (List.mem_singleton_self _)
    have hNesting := Nat.lt_of_lt_of_le hPart.nesting_lt hReadable.nesting
    rw [Report.nesting_nestedLists] at hNesting
    exact absurd hNesting (by decide)

end Artifact

end ReportPress
