import ReportPress.Proofs.Markdown.Search
import ReportPress.Proofs.Markdown.Shown
import ReportPress.Proofs.Text.Line
import ReportPress.Proofs.Text.LooseText

/-!
What is written in the statistics table is recovered from the document, whatever the schema is
called, as long as its name has no pipe, and whatever the document says behind the table. Main
statements: `document_eq`, a document is a table with a text behind it, and `recover_table`, the
figures of a table are those that were written.
-/

namespace ReportPress.Statistics

/-- The heading of the table. -/
def heading : String := "## 📊 Processing Statistics"

/-- The text in front of the table. -/
def titleChars : List Char := heading.toList ++ ['\n', '\n']

/-- The cell of a count. -/
def countCell (count : Nat) : List Char := ' ' :: ((Text.grouped count).toList ++ [' '])

/-- The cell of a cost. -/
def costCell (amount : List Char) : List Char := " **$".toList ++ (amount ++ "** ".toList)

/-- A table of statistics with the text behind it. -/
def tableChars (schemaName : List Char) (usage : TokenUsage) (amount rest : List Char) :
    List Char :=
  titleChars ++ rowChars " Metric ".toList " Value ".toList
    (rowChars "--------".toList "-------".toList
      (rowChars " Schema ".toList (' ' :: (schemaName ++ [' ']))
        (rowChars " Input Tokens ".toList (countCell usage.input)
          (rowChars " Output Tokens ".toList (countCell usage.output)
            (rowChars " Total Tokens ".toList (countCell usage.total)
              (rowChars " **Estimated Cost (USD)** ".toList (costCell amount) rest))))))

/-- The counts of a run are short enough to be written. -/
def IsWritable (usage : TokenUsage) : Prop :=
  usage.input.repr.length ≤ Text.digitLimit ∧ usage.output.repr.length ≤ Text.digitLimit ∧
    usage.total.repr.length ≤ Text.digitLimit

theorem rowChars_append (name value rest more : List Char) :
    rowChars name value rest ++ more = rowChars name value (rest ++ more) := by
  simp [rowChars]

theorem toList_joinLines_append (lines : List String) {body : List String} (h : body ≠ []) :
    (Text.joinLines (lines ++ body)).toList =
      lines.flatMap (fun line => line.toList ++ ['\n']) ++ (Text.joinLines body).toList := by
  induction lines with
  | nil => rfl
  | cons line lines ih =>
    have hRest : lines ++ body ≠ [] := fun hNil => h (List.append_eq_nil_iff.1 hNil).2
    rw [List.cons_append, Text.joinLines, String.intercalate_cons_of_ne_nil hRest,
      String.toList_append, ← Text.joinLines, ih]
    simp

theorem countText_eq_ok_iff {count : Nat} {text : String} : countText count = .ok text ↔
    count.repr.length ≤ Text.digitLimit ∧ Text.grouped count = text := by
  rw [countText, Text.isShort, Int.natAbs_natCast]
  split <;> simp_all

theorem isWritable_zero : IsWritable .zero := ⟨by decide, by decide, by decide⟩

theorem costText_zero : costText (.whole 0) = .ok "0.0000" := by decide +kernel

/-- The lines of a table with the given figures. -/
def tableLines (schemaName : LooseText) (usage : TokenUsage) (amount : String) : List LooseText :=
  headingLines.map .ofString ++ schemaLine schemaName ::
    (figureLines (Text.grouped usage.input) (Text.grouped usage.output) (Text.grouped usage.total)
      amount).map .ofString

section

variable {schemaName : LooseText} {amount : String} {usage : TokenUsage} {cost : Cost}

theorem lines_eq_ok_iff {lines : List LooseText} :
    Statistics.lines schemaName usage cost = .ok lines ↔ IsWritable usage ∧
      ∃ amount, costText cost = .ok amount ∧ tableLines schemaName usage amount = lines := by
  rw [Statistics.lines]
  simp only [Except.bind_eq_ok_iff, countText_eq_ok_iff, IsWritable]
  constructor
  · rintro ⟨_, ⟨hInput, rfl⟩, _, ⟨hOutput, rfl⟩, _, ⟨hTotal, rfl⟩, amount, hAmount, hLines⟩
    exact ⟨⟨hInput, hOutput, hTotal⟩, amount, hAmount, Except.ok.inj hLines⟩
  · rintro ⟨⟨hInput, hOutput, hTotal⟩, amount, hAmount, rfl⟩
    exact ⟨_, ⟨hInput, rfl⟩, _, ⟨hOutput, rfl⟩, _, ⟨hTotal, rfl⟩, amount, hAmount, rfl⟩

/-- What it takes for a report to have a document, and what the document says. -/
theorem document_eq_ok_iff {report : Report} {text : LooseText} :
    Markdown.document report schemaName usage cost = .ok text ↔ IsWritable usage ∧
      ∃ amount body, costText cost = .ok amount ∧ Markdown.bodyLines? report = some body ∧
        .joinLines (tableLines schemaName usage amount ++ body.map .ofString) = text := by
  rw [Markdown.document, Markdown.documentOf, Except.bind_eq_ok_iff]
  simp only [lines_eq_ok_iff]
  constructor
  · rintro ⟨_, ⟨hUsage, amount, hAmount, rfl⟩, hText⟩
    cases hBody : Markdown.bodyLines? report with
    | none => simp [hBody] at hText
    | some body =>
      rw [hBody] at hText
      exact ⟨hUsage, amount, body, hAmount, rfl, Except.ok.inj hText⟩
  · rintro ⟨hUsage, amount, body, hAmount, hBody, rfl⟩
    refine ⟨_, ⟨hUsage, amount, hAmount, rfl⟩, ?_⟩
    rw [hBody]
    rfl

/-- A document holds a surrogate only in the name of the schema. -/
theorem isPlain_document_iff {report : Report} {text : LooseText}
    (h : Markdown.document report schemaName usage cost = .ok text) :
    text.IsPlain ↔ schemaName.IsPlain := by
  obtain ⟨-, amount, body, -, -, rfl⟩ := document_eq_ok_iff.1 h
  have hPlain (lines : List String) : ∀ line ∈ lines.map LooseText.ofString, line.IsPlain :=
    List.forall_mem_map.2 fun line _ => LooseText.isPlain_ofString line
  rw [LooseText.isPlain_joinLines_iff, tableLines, List.forall_mem_append, List.forall_mem_append,
    List.forall_mem_cons, and_iff_left (hPlain _), and_iff_right (hPlain _), and_iff_left (hPlain _),
    schemaLine, LooseText.isPlain_append_iff, LooseText.isPlain_append_iff,
    and_iff_right (LooseText.isPlain_ofString _), and_iff_left (LooseText.isPlain_ofString _)]

/-- Counts with few enough digits and a cost that has a text make a document of a report that can be
shown. -/
theorem exists_document {report : Report} (schemaName : LooseText) (hUsage : IsWritable usage)
    (hAmount : costText cost = .ok amount) (hShown : report.IsShowable) :
    ∃ document, Markdown.document report schemaName usage cost = .ok document := by
  obtain ⟨body, hBody⟩ := Option.isSome_iff_exists.1 (Markdown.isSome_bodyLines?_iff.2 hShown)
  exact ⟨_, document_eq_ok_iff.2 ⟨hUsage, amount, body, hAmount, hBody, rfl⟩⟩

/-- There is no document of a report that cannot be shown. -/
theorem document_of_not_isShowable {report : Report} (schemaName : LooseText)
    (hUsage : IsWritable usage) (hAmount : costText cost = .ok amount)
    (hShown : ¬ report.IsShowable) :
    Markdown.document report schemaName usage cost = .error (.tooManyDigits none) := by
  have hBody : Markdown.bodyLines? report = none :=
    Option.not_isSome_iff_eq_none.1 (Markdown.isSome_bodyLines?_iff.not.2 hShown)
  have hLines : Statistics.lines schemaName usage cost = .ok _ :=
    lines_eq_ok_iff.2 ⟨hUsage, amount, hAmount, rfl⟩
  rw [Markdown.document, Markdown.documentOf, hLines, hBody]
  rfl

end

section

variable {schemaName amount : String} {usage : TokenUsage} {cost : Cost}

/-- The lines of a table whose schema has a name without surrogates. -/
def tableTexts (schemaName : String) (usage : TokenUsage) (amount : String) : List String :=
  headingLines ++ ("| Schema | " ++ schemaName ++ " |") ::
    figureLines (Text.grouped usage.input) (Text.grouped usage.output) (Text.grouped usage.total)
      amount

theorem tableLines_ofString : tableLines schemaName usage amount =
    (tableTexts schemaName usage amount).map .ofString := by
  rw [tableTexts, List.map_append, List.map_cons, LooseText.ofString_append,
    LooseText.ofString_append]
  rfl

theorem toList_joinLines_tableTexts {body : List String} (hBody : body ≠ []) :
    (Text.joinLines (tableTexts schemaName usage amount ++ body)).toList =
      tableChars schemaName.toList usage amount.toList
        ("\n---\n\n".toList ++ (Text.joinLines body).toList) := by
  have hMetric : "| Metric | Value |".toList ++ ['\n'] =
      rowChars " Metric ".toList " Value ".toList [] := rfl
  have hRule : "|--------|-------|".toList ++ ['\n'] =
      rowChars "--------".toList "-------".toList [] := rfl
  have hSchema : ("| Schema | " ++ schemaName ++ " |").toList ++ ['\n'] =
      rowChars " Schema ".toList (' ' :: (schemaName.toList ++ [' '])) [] := by
    simp [rowChars]
  have hInput : ("| " ++ inputLabel ++ Text.grouped usage.input ++ " |").toList ++ ['\n'] =
      rowChars " Input Tokens ".toList (countCell usage.input) [] := by
    simp [rowChars, countCell, inputLabel]
  have hOutput : ("| " ++ outputLabel ++ Text.grouped usage.output ++ " |").toList ++ ['\n'] =
      rowChars " Output Tokens ".toList (countCell usage.output) [] := by
    simp [rowChars, countCell, outputLabel]
  have hTotal : ("| " ++ totalLabel ++ Text.grouped usage.total ++ " |").toList ++ ['\n'] =
      rowChars " Total Tokens ".toList (countCell usage.total) [] := by
    simp [rowChars, countCell, totalLabel]
  have hCost : ("| **" ++ costLabel ++ amount ++ "** |").toList ++ ['\n'] =
      rowChars " **Estimated Cost (USD)** ".toList (costCell amount.toList) [] := by
    simp [rowChars, costCell, costLabel]
  have hEnd : "".toList ++ ['\n'] ++ ("---".toList ++ ['\n'] ++ ("".toList ++ ['\n'])) =
      "\n---\n\n".toList := rfl
  have hTitle : heading.toList ++ ['\n'] ++ ("".toList ++ ['\n']) = titleChars := by
    simp [titleChars]
  rw [toList_joinLines_append _ hBody, tableTexts, headingLines, figureLines]
  simp only [List.cons_append, List.nil_append, List.flatMap_cons, List.flatMap_nil, hMetric, hRule,
    hSchema, hInput, hOutput, hTotal, hCost, hEnd, rowChars_append, List.append_nil]
  rw [tableChars, ← hTitle]
  simp only [List.append_assoc, rowChars_append]
  rfl

theorem exists_document_ofString {report : Report} (schemaName : String) (hUsage : IsWritable usage)
    (hAmount : costText cost = .ok amount) (hShown : report.IsShowable) :
    ∃ document : String, Markdown.document report schemaName usage cost = .ok document := by
  obtain ⟨text, hDocument⟩ := exists_document schemaName hUsage hAmount hShown
  have hPlain := (isPlain_document_iff hDocument).2 (LooseText.isPlain_ofString schemaName)
  obtain ⟨document, rfl⟩ := LooseText.isPlain_iff.1 hPlain
  exact ⟨document, hDocument⟩

/-- A document is a table of the statistics with the text of the report behind it. -/
theorem document_eq {report : Report} {document : String} (hAmount : costText cost = .ok amount)
    (h : Markdown.document report schemaName usage cost = .ok document) : IsWritable usage ∧
      ∃ rest, document.toList = tableChars schemaName.toList usage amount.toList rest := by
  obtain ⟨hUsage, other, body, hOther, hSome, hText⟩ := document_eq_ok_iff.1 h
  obtain rfl : amount = other := Except.ok.inj (hAmount.symm.trans hOther)
  rw [tableLines_ofString, ← List.map_append, LooseText.joinLines_ofString,
    LooseText.ofString_inj] at hText
  have hBody := Markdown.ne_nil_of_bodyLines? hSome
  exact ⟨hUsage, _, hText ▸ toList_joinLines_tableTexts hBody⟩

end

theorem isCountPart_of_mem_grouped {count : Nat} {c : Char}
    (h : c ∈ (Text.grouped count).toList) : isCountPart c = true := by
  rw [Text.grouped, String.toList_ofList] at h
  rcases Text.mem_groupThousands h with rfl | hDigit
  · rfl
  · rw [isCountPart, Text.isDigit_of_ascii (Text.isDigit_of_mem_repr hDigit), Bool.or_true]

theorem countOf_grouped {count : Nat} (h : count.repr.length ≤ Text.digitLimit) :
    countOf (Text.grouped count).toList = .ok count := by
  have hDigits : ∀ c ∈ count.repr.toList, c.isDigit = true := fun c => Text.isDigit_of_mem_repr
  have hLength := Text.length_repr_toList count
  have hPart : (Text.grouped count).toList.filter (· != ',') = count.repr.toList := by
    rw [Text.grouped, String.toList_ofList, Text.filter_groupThousands hDigits]
  have hSome : count.repr.toList.isEmpty = false :=
    List.isEmpty_eq_false_iff.2 (Text.repr_ne_nil count)
  rw [countOf]
  simp only [hPart, hSome]
  rw [if_neg (by decide), if_neg (by omega), Text.figureValue_eq hDigits, Text.ofDigitChars_repr]

theorem pipe_notMem_countCell (count : Nat) : '|' ∉ countCell count := by
  have hCount : '|' ∉ (Text.grouped count).toList := fun hMem =>
    absurd (isCountPart_of_mem_grouped hMem) (by decide)
  simp [countCell, hCount]

/-- The chunks between the pipes up to the cell of the schema's name, and between two rows. -/
def frontChunks : List (List Char) :=
  [titleChars, " Metric ".toList, "--------".toList, " Schema ".toList, ['\n']]

section

variable {before after : List Char} {isPart : Char → Bool} (hBefore : '|' ∉ before)
  (hNonempty : before ≠ []) (hOther : ∀ chunk ∈ frontChunks, ¬ before <:+ chunk)
include hBefore hNonempty hOther

/-- The search passes the rows up to the one of the schema, whatever the schema is called. -/
theorem figure?_front {schemaName rest : List Char} (hSchema : '|' ∉ schemaName) :
    figure? (before ++ '|' :: ' ' :: after) isPart
      (titleChars ++ rowChars " Metric ".toList " Value ".toList
        (rowChars "--------".toList "-------".toList
          (rowChars " Schema ".toList (' ' :: (schemaName ++ [' '])) rest))) =
      figure? (before ++ '|' :: ' ' :: after) isPart (['\n'] ++ rest) := by
  have hBreak := hOther ['\n'] (by simp [frontChunks])
  have hCell : '|' ∉ ' ' :: (schemaName ++ [' ']) := by simp [hSchema]
  rw [figure?_row hBefore hNonempty (by decide) (hOther _ (by simp [frontChunks])) rfl (by decide)
    (by decide) (hOther _ (by simp [frontChunks])) (by decide)]
  refine (figure?_row hBefore hNonempty (by decide) hBreak rfl (by decide) (by decide)
    (hOther _ (by simp [frontChunks])) (by decide)).trans ?_
  exact figure?_row hBefore hNonempty (by decide) hBreak rfl (by decide) (by decide)
    (hOther _ (by simp [frontChunks])) hCell

theorem figure?_countRow {name rest : List Char} (hName : '|' ∉ name) (hRow : ¬ before <:+ name)
    (count : Nat) :
    figure? (before ++ '|' :: ' ' :: after) isPart
      (['\n'] ++ rowChars name (countCell count) rest) =
      figure? (before ++ '|' :: ' ' :: after) isPart (['\n'] ++ rest) :=
  figure?_row hBefore hNonempty (by decide) (hOther ['\n'] (by simp [frontChunks])) rfl (by decide)
    hName hRow (pipe_notMem_countCell count)

theorem figure?_ownCountRow {rest : List Char} (count : Nat) :
    figure? (before ++ ['|', ' ']) isCountPart
      (['\n'] ++ rowChars (' ' :: before) (countCell count) rest) =
      some (Text.grouped count).toList := by
  have hSome : (Text.grouped count).toList ≠ [] := by
    rw [Text.grouped, String.toList_ofList]
    exact Text.groupThousands_ne_nil (Text.repr_ne_nil count)
  exact @figure?_of_row before [' '] isCountPart hBefore ['\n'] rest hNonempty (by decide)
    (hOther ['\n'] (by simp [frontChunks])) [' '] _ [] ' ' (by decide)
    (fun c => isCountPart_of_mem_grouped) (by decide) hSome

end

section

variable {schemaName : List Char} {usage : TokenUsage} {amount rest : List Char}
  (hSchema : '|' ∉ schemaName)
include hSchema

theorem figure?_input : figure? inputLabel.toList isCountPart
    (tableChars schemaName usage amount rest) = some (Text.grouped usage.input).toList := by
  have hLabel : inputLabel.toList = "Input Tokens ".toList ++ ['|', ' '] := rfl
  rw [hLabel, tableChars, figure?_front (by decide) (by decide) (by decide) hSchema]
  exact figure?_ownCountRow (by decide) (by decide) (by decide) usage.input

theorem figure?_output : figure? outputLabel.toList isCountPart
    (tableChars schemaName usage amount rest) = some (Text.grouped usage.output).toList := by
  have hLabel : outputLabel.toList = "Output Tokens ".toList ++ ['|', ' '] := rfl
  rw [hLabel, tableChars, figure?_front (by decide) (by decide) (by decide) hSchema,
    figure?_countRow (by decide) (by decide) (by decide) (by decide) (by decide)]
  exact figure?_ownCountRow (by decide) (by decide) (by decide) usage.output

theorem figure?_total : figure? totalLabel.toList isCountPart
    (tableChars schemaName usage amount rest) = some (Text.grouped usage.total).toList := by
  have hLabel : totalLabel.toList = "Total Tokens ".toList ++ ['|', ' '] := rfl
  rw [hLabel, tableChars, figure?_front (by decide) (by decide) (by decide) hSchema,
    figure?_countRow (by decide) (by decide) (by decide) (by decide) (by decide),
    figure?_countRow (by decide) (by decide) (by decide) (by decide) (by decide)]
  exact figure?_ownCountRow (by decide) (by decide) (by decide) usage.total

/-- The figure in the row of the cost, for any class of characters that holds those of the amount
and no asterisk. -/
theorem figure?_cost {isPart : Char → Bool} (hAmount : ∀ c ∈ amount, isPart c = true)
    (hSome : amount ≠ []) (hStop : isPart '*' = false) :
    figure? costLabel.toList isPart (tableChars schemaName usage amount rest) = some amount := by
  have hLabel : costLabel.toList = "Estimated Cost (USD)** ".toList ++ '|' :: ' ' :: "**$".toList :=
    rfl
  rw [hLabel, tableChars, figure?_front (by decide) (by decide) (by decide) hSchema,
    figure?_countRow (by decide) (by decide) (by decide) (by decide) (by decide),
    figure?_countRow (by decide) (by decide) (by decide) (by decide) (by decide),
    figure?_countRow (by decide) (by decide) (by decide) (by decide) (by decide)]
  exact @figure?_of_row "Estimated Cost (USD)** ".toList (' ' :: "**$".toList) isPart (by decide)
    ['\n'] rest (by decide) (by decide) (by decide) " **".toList amount "* ".toList '*' (by decide)
    hAmount hStop hSome

/-- The figures of a table are those that were written. -/
theorem recover_table (hUsage : IsWritable usage) (hAmount : ∀ c ∈ amount, isCostPart c = true)
    (hSome : amount ≠ []) : recover (String.ofList (tableChars schemaName usage amount rest)) =
      .ok (usage, costOf amount) := by
  obtain ⟨hInput, hOutput, hTotal⟩ := hUsage
  rw [recover]
  simp only [String.toList_ofList, count, figure?_input hSchema, figure?_output hSchema,
    figure?_total hSchema, figure?_cost hSchema hAmount hSome (by decide), countOf_grouped hInput,
    countOf_grouped hOutput, countOf_grouped hTotal]
  rfl

end

theorem costOf_eq_plain (part : List Char) : costOf part =
    ((Text.unsignedDecimal? (part.map Text.plainDigit)).map (·.toBinary64 false)).getD .zero := rfl

theorem length_repr_of_countOf {part : List Char} {n : Nat} (h : countOf part = .ok n) :
    n.repr.length ≤ Text.digitLimit := by
  rw [countOf] at h
  split at h
  · cases h
  · split at h
    · cases h
    · rename_i hShort
      obtain rfl := Except.ok.inj h
      exact Text.length_repr_figureValue (by decide) (Nat.le_of_not_lt hShort)

theorem length_repr_of_count {label : String} {document : List Char} {n : Nat}
    (h : count label document = .ok n) : n.repr.length ≤ Text.digitLimit := by
  rw [count] at h
  split at h
  · exact length_repr_of_countOf h
  · obtain rfl := Except.ok.inj h
    decide

theorem recover_eq_ok {document : String} {usage : TokenUsage} {cost : Binary64}
    (h : recover document = .ok (usage, cost)) :
    count inputLabel document.toList = .ok usage.input ∧
      count outputLabel document.toList = .ok usage.output ∧
        count totalLabel document.toList = .ok usage.total ∧
          ((figure? costLabel.toList isCostPart document.toList).map costOf).getD .zero = cost := by
  rw [recover] at h
  cases hInput : count inputLabel document.toList with
  | error e => simp [hInput, bind, Except.bind] at h
  | ok input =>
    cases hOutput : count outputLabel document.toList with
    | error e => simp [hInput, hOutput, bind, Except.bind] at h
    | ok output =>
      cases hTotal : count totalLabel document.toList with
      | error e => simp [hInput, hOutput, hTotal, bind, Except.bind] at h
      | ok total =>
        rw [hInput, hOutput, hTotal] at h
        obtain ⟨rfl, hCost⟩ := Prod.mk.inj (Except.ok.inj h)
        exact ⟨rfl, rfl, rfl, hCost⟩

theorem isWritable_of_recover {document : String} {usage : TokenUsage} {cost : Binary64}
    (h : recover document = .ok (usage, cost)) : IsWritable usage := by
  obtain ⟨hInput, hOutput, hTotal, -⟩ := recover_eq_ok h
  exact ⟨length_repr_of_count hInput, length_repr_of_count hOutput, length_repr_of_count hTotal⟩

theorem costText_exact (x : Binary64) : costText (.exact x) = .ok (x.fixed costPlaces) := rfl

/-- A row without carriage returns stays as it is. -/
theorem unifyLineEnds_rowChars {name value : List Char} (hName : '\r' ∉ name) (hValue : '\r' ∉ value)
    (rest : List Char) : Text.unifyLineEnds (rowChars name value rest) =
      rowChars name value (Text.unifyLineEnds rest) := by
  have hRow : rowChars name value rest = rowChars name value [] ++ rest := by
    rw [rowChars_append, List.nil_append]
  have hFront : '\r' ∉ rowChars name value [] := by
    simp [rowChars, hName, hValue]
  rw [hRow, Text.unifyLineEnds_append hFront, rowChars_append, List.nil_append]

theorem return_notMem_countCell (count : Nat) : '\r' ∉ countCell count := by
  have hCount : '\r' ∉ (Text.grouped count).toList := fun hMem =>
    absurd (isCountPart_of_mem_grouped hMem) (by decide)
  simp [countCell, hCount]

/-- Unifying the line ends of a table changes only the schema's name and the text behind. -/
theorem unifyLineEnds_tableChars {schemaName amount rest : List Char} {usage : TokenUsage}
    (hAmount : '\r' ∉ amount) :
    Text.unifyLineEnds (tableChars schemaName usage amount rest) =
      tableChars (Text.unifyLineEnds schemaName) usage amount (Text.unifyLineEnds rest) := by
  have hCost : '\r' ∉ costCell amount := by
    rw [costCell, List.mem_append, List.mem_append, not_or, not_or]
    exact ⟨by decide, hAmount, by decide⟩
  have hSchema (rest : List Char) : Text.unifyLineEnds
      (rowChars " Schema ".toList (' ' :: (schemaName ++ [' '])) rest) =
        rowChars " Schema ".toList (' ' :: (Text.unifyLineEnds schemaName ++ [' ']))
          (Text.unifyLineEnds rest) := by
    have hFront : '\r' ∉ '|' :: (" Schema ".toList ++ ['|', ' ']) := by decide
    have hBack : '\r' ∉ ['|', '\n'] := by decide
    have hRow (name rest : List Char) :
        rowChars " Schema ".toList (' ' :: (name ++ [' '])) rest =
          '|' :: (" Schema ".toList ++ ['|', ' ']) ++ (name ++ ' ' :: (['|', '\n'] ++ rest)) := by
      simp [rowChars]
    rw [hRow, hRow, Text.unifyLineEnds_append hFront,
      Text.unifyLineEnds_append_cons (by decide) (by decide), Text.unifyLineEnds_append hBack]
  rw [tableChars, Text.unifyLineEnds_append (by decide), unifyLineEnds_rowChars (by decide)
    (by decide), unifyLineEnds_rowChars (by decide) (by decide), hSchema,
    unifyLineEnds_rowChars (by decide) (return_notMem_countCell _),
    unifyLineEnds_rowChars (by decide) (return_notMem_countCell _),
    unifyLineEnds_rowChars (by decide) (return_notMem_countCell _),
    unifyLineEnds_rowChars (by decide) hCost, tableChars]

end ReportPress.Statistics
