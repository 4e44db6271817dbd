import Mathlib.Data.List.TakeWhile
import ReportPress.Proofs.Markdown.Statistics

/-!
What is recovered from any text at all. A figure is the run of characters behind the first label
that has any; a count is read from it if it has digits, and not too many, and a cost if it has
digits and at most one point. What is not there counts as zero, and so does a cost that cannot be
read; a count that cannot be read keeps all figures from being recovered. Main statement:
`recover_returns_iff`.
-/

namespace ReportPress.Statistics

/-- The text starts with the label and a character of the class. -/
def Opens (label : List Char) (isPart : Char → Bool) (text : List Char) : Prop :=
  ∃ c rest, text = label ++ c :: rest ∧ isPart c = true

/-- The characters are all of those of the class behind a label that has some, and no such label
starts before it. -/
def IsFigure (label : List Char) (isPart : Char → Bool) (text part : List Char) : Prop :=
  ∃ before after, text = before ++ (label ++ (part ++ after)) ∧ part ≠ [] ∧
    (∀ c ∈ part, isPart c = true) ∧ (∀ c ∈ after.head?, isPart c = false) ∧
      ∀ position < before.length, ¬ Opens label isPart (text.drop position)

section

variable {label : List Char} {isPart : Char → Bool} {text part : List Char} {c : Char}
  {rest : List Char}

theorem takeWhile_of_run {after : List Char} (hPart : ∀ c ∈ part, isPart c = true)
    (hAfter : ∀ c ∈ after.head?, isPart c = false) :
    (part ++ after).takeWhile isPart = part := by
  cases after with
  | nil =>
    rw [List.append_nil]
    exact List.takeWhile_eq_self_iff.2 hPart
  | cons stop rest => exact Text.takeWhile_append_stop rest hPart (hAfter stop rfl)

theorem figure?_of_opens (h : Opens label isPart text) :
    figure? label isPart text = some ((text.drop label.length).takeWhile isPart) := by
  obtain ⟨first, behind, rfl, hFirst⟩ := h
  cases hText : label ++ first :: behind with
  | nil => simp at hText
  | cons c rest =>
    refine figure?_cons_of_label ?_ rfl ?_
    · rw [← hText]
      exact List.prefix_append _ _
    · rw [← hText, List.drop_left, List.takeWhile_cons_of_pos hFirst]
      exact List.cons_ne_nil _ _

theorem figure?_of_not_opens (h : ¬ Opens label isPart (c :: rest)) :
    figure? label isPart (c :: rest) = figure? label isPart rest := by
  by_cases hLabel : label <+: c :: rest
  case neg => exact figure?_cons_of_not_label hLabel
  case pos =>
    -- the label stands here, but without any character of the class behind it
    have hNone : ((c :: rest).drop label.length).takeWhile isPart = [] := by
      obtain ⟨behind, hBehind⟩ := hLabel
      rw [← hBehind, List.drop_left]
      cases behind with
      | nil => rfl
      | cons first behind =>
        refine List.takeWhile_cons_of_neg fun hFirst => h ⟨first, behind, hBehind.symm, hFirst⟩
    rw [figure?]
    simp only [hNone, ite_self]
    rfl

theorem isFigure_iff_of_opens (h : Opens label isPart text) :
    IsFigure label isPart text part ↔ (text.drop label.length).takeWhile isPart = part := by
  constructor
  · rintro ⟨before, after, hText, -, hPart, hAfter, hFirst⟩
    cases before with
    | cons d before => exact absurd h (hFirst 0 (Nat.zero_lt_succ _))
    | nil =>
      rw [hText, List.nil_append, List.drop_left]
      exact takeWhile_of_run hPart hAfter
  · rintro rfl
    obtain ⟨first, behind, rfl, hFirst⟩ := h
    rw [List.drop_left]
    refine ⟨[], (first :: behind).dropWhile isPart, ?_, ?_, ?_, ?_, ?_⟩
    · rw [List.takeWhile_append_dropWhile]
      rfl
    · rw [List.takeWhile_cons_of_pos hFirst]
      exact List.cons_ne_nil _ _
    · exact fun c hc => List.mem_takeWhile_imp hc
    · intro c hc
      have := List.head?_dropWhile_not isPart (first :: behind)
      rw [Option.mem_def.1 hc] at this
      simpa using this
    · exact fun position h => absurd h (Nat.not_lt_zero position)

theorem isFigure_cons_iff (h : ¬ Opens label isPart (c :: rest)) :
    IsFigure label isPart (c :: rest) part ↔ IsFigure label isPart rest part := by
  constructor
  · rintro ⟨before, after, hText, hSome, hPart, hAfter, hFirst⟩
    cases before with
    | nil =>
      obtain ⟨first, more, rfl⟩ := List.exists_cons_of_ne_nil hSome
      exact absurd ⟨first, more ++ after, hText, hPart first List.mem_cons_self⟩ h
    | cons d before =>
      refine ⟨before, after, List.tail_eq_of_cons_eq hText, hSome, hPart, hAfter, ?_⟩
      exact fun position hPosition => hFirst (position + 1) (Nat.succ_lt_succ hPosition)
  · rintro ⟨before, after, rfl, hSome, hPart, hAfter, hFirst⟩
    refine ⟨c :: before, after, rfl, hSome, hPart, hAfter, fun position hPosition => ?_⟩
    cases position with
    | zero => exact h
    | succ position => exact hFirst position (Nat.lt_of_succ_lt_succ hPosition)

/-- The search finds the figure, and nothing else. -/
theorem figure?_eq_some_iff :
    figure? label isPart text = some part ↔ IsFigure label isPart text part := by
  induction text with
  | nil =>
    refine ⟨fun h => (by cases h), ?_⟩
    rintro ⟨before, after, hText, hSome, -⟩
    simp [hSome] at hText
  | cons c rest ih =>
    by_cases h : Opens label isPart (c :: rest)
    · rw [figure?_of_opens h, isFigure_iff_of_opens h, Option.some_inj]
    · rw [figure?_of_not_opens h, isFigure_cons_iff h, ih]

theorem IsFigure.forall_isPart (h : IsFigure label isPart text part) :
    ∀ c ∈ part, isPart c = true := by
  obtain ⟨before, after, -, -, hPart, -⟩ := h
  exact hPart

theorem IsFigure.unique {other : List Char} (h : IsFigure label isPart text part)
    (hOther : IsFigure label isPart text other) : other = part :=
  Option.some.inj ((figure?_eq_some_iff.2 hOther).symm.trans (figure?_eq_some_iff.2 h))

theorem not_isFigure_of_none (h : figure? label isPart text = none) (part : List Char) :
    ¬ IsFigure label isPart text part := by
  rw [← figure?_eq_some_iff, h]
  exact (Option.some_ne_none part).symm

end

/-! ### Counts -/

/-- There are digits beside the commas, and not too many. -/
def IsReadableCount (part : List Char) : Prop :=
  0 < (part.filter (· != ',')).length ∧ (part.filter (· != ',')).length ≤ Text.digitLimit

/-- What a text says behind the label of a count. -/
inductive SaysCount (label text : List Char) : Nat → Prop
  | read {part : List Char} (hFigure : IsFigure label isCountPart text part)
      (hReadable : IsReadableCount part) :
      SaysCount label text (Text.figureValue (part.filter (· != ',')))
  | zero (hNone : ∀ part, IsFigure label isCountPart text part → ¬ IsReadableCount part) :
      SaysCount label text 0

theorem countOf_eq_ok_iff {part : List Char} {n : Nat} : countOf part = .ok n ↔
    IsReadableCount part ∧ Text.figureValue (part.filter (· != ',')) = n := by
  unfold countOf IsReadableCount
  generalize part.filter (· != ',') = digits
  by_cases hSome : digits = []
  · simp [hSome]
  by_cases hShort : digits.length ≤ Text.digitLimit
  · have hPos := List.length_pos_iff.2 hSome
    simp [hSome, hShort, hPos, Nat.not_lt.2 hShort]
  · simp [hSome, hShort, Nat.lt_of_not_le hShort]

/-- A count is recovered if its figure, if there is one, can be read. -/
theorem count_eq_ok_iff {label : String} {text : List Char} {n : Nat} :
    count label text = .ok n ↔
      (∀ part, IsFigure label.toList isCountPart text part → IsReadableCount part) ∧
        SaysCount label.toList text n := by
  rw [count]
  cases hFigure : figure? label.toList isCountPart text with
  | none =>
    have hNone := not_isFigure_of_none hFigure
    constructor
    · intro h
      rw [← Except.ok.inj h]
      exact ⟨fun part h => absurd h (hNone part), .zero fun part h => absurd h (hNone part)⟩
    · rintro ⟨-, hSays⟩
      cases hSays with
      | read h => exact absurd h (hNone _)
      | zero => rfl
  | some part =>
    rw [figure?_eq_some_iff] at hFigure
    dsimp only
    rw [countOf_eq_ok_iff]
    constructor
    · rintro ⟨hReadable, rfl⟩
      exact ⟨fun other h => hFigure.unique h ▸ hReadable, .read hFigure hReadable⟩
    · rintro ⟨hEach, hSays⟩
      refine ⟨hEach part hFigure, ?_⟩
      cases hSays with
      | read h => rw [hFigure.unique h]
      | zero hNone => exact absurd (hEach part hFigure) (hNone part hFigure)

theorem exists_saysCount (label text : List Char) : ∃ n, SaysCount label text n := by
  by_cases h : ∃ part, IsFigure label isCountPart text part ∧ IsReadableCount part
  · obtain ⟨part, hFigure, hReadable⟩ := h
    exact ⟨_, .read hFigure hReadable⟩
  · exact ⟨0, .zero fun part hFigure hReadable => h ⟨part, hFigure, hReadable⟩⟩

/-! ### Costs -/

/-- Digits of any script with at most one point among them, and the decimal that they are. -/
inductive IsDecimal : List Char → Decimal → Prop
  | whole {digits : List Char} (hDigits : ∀ c ∈ digits, Text.isDigit c = true)
      (hSome : digits ≠ []) : IsDecimal digits ⟨Text.figureValue digits, 0⟩
  | point {whole fraction : List Char} (hWhole : ∀ c ∈ whole, Text.isDigit c = true)
      (hFraction : ∀ c ∈ fraction, Text.isDigit c = true) (hSome : whole ++ fraction ≠ []) :
      IsDecimal (whole ++ '.' :: fraction)
        ⟨Text.figureValue (whole ++ fraction), -fraction.length⟩

/-- What a text says behind the label of the cost. -/
inductive SaysCost (text : List Char) : Binary64 → Prop
  | read {part : List Char} {d : Decimal} (hFigure : IsFigure costLabel.toList isCostPart text part)
      (hReadable : IsDecimal part d) : SaysCost text (d.toBinary64 false)
  | zero (hNone : ∀ part d, IsFigure costLabel.toList isCostPart text part →
      ¬ IsDecimal part d) : SaysCost text .zero

/-- Digits and points start with digits, up to a point if there is one. -/
theorem exists_digits {part : List Char} (h : ∀ c ∈ part, isCostPart c = true) :
    ∃ whole, (∀ c ∈ whole, Text.isDigit c = true) ∧
      (part = whole ∨
        ∃ rest, part = whole ++ '.' :: rest ∧ ∀ c ∈ rest, isCostPart c = true) := by
  induction part with
  | nil => exact ⟨[], by simp, .inl rfl⟩
  | cons c rest ih =>
    have hRest : ∀ c ∈ rest, isCostPart c = true := fun c hc => h c (List.mem_cons_of_mem _ hc)
    have hc := h c List.mem_cons_self
    rw [isCostPart, Bool.or_eq_true, beq_iff_eq] at hc
    rcases hc with rfl | hDigit
    · exact ⟨[], by simp, .inr ⟨rest, rfl, hRest⟩⟩
    · obtain ⟨whole, hWhole, hParts⟩ := ih hRest
      refine ⟨c :: whole, List.forall_mem_cons.2 ⟨hDigit, hWhole⟩, ?_⟩
      rcases hParts with rfl | ⟨behind, rfl, hBehind⟩
      · exact .inl rfl
      · exact .inr ⟨behind, rfl, hBehind⟩

theorem IsDecimal.unsignedDecimal? {part : List Char} {d : Decimal} (h : IsDecimal part d) :
    Text.unsignedDecimal? (part.map Text.plainDigit) = some d := by
  have hPoint : Text.plainDigit '.' = '.' := rfl
  cases h with
  | whole hDigits hSome =>
    rw [Text.unsignedDecimal?_digits (Text.isDigit_of_mem_map hDigits) (by simpa using hSome),
      Text.ofDigitChars_map hDigits]
  | point hWhole hFraction hSome =>
    rw [List.map_append, List.map_cons, hPoint,
      Text.unsignedDecimal?_point (Text.isDigit_of_mem_map hWhole)
        (Text.isDigit_of_mem_map hFraction) (by simpa using hSome),
      ← List.map_append, List.length_map,
      Text.ofDigitChars_map (List.forall_mem_append.2 ⟨hWhole, hFraction⟩)]

/-- The characters of a cost that are read as anything are a decimal. -/
theorem exists_isDecimal {part : List Char} {d : Decimal} (hPart : ∀ c ∈ part, isCostPart c = true)
    (h : Text.unsignedDecimal? (part.map Text.plainDigit) = some d) : ∃ d, IsDecimal part d := by
  have hPoint : Text.plainDigit '.' = '.' := rfl
  obtain ⟨whole, hWhole, rfl | ⟨rest, rfl, hRest⟩⟩ := exists_digits hPart
  · by_cases hSome : part = []
    · subst hSome
      cases h
    · exact ⟨_, .whole hWhole hSome⟩
  obtain ⟨fraction, hFraction, rfl | ⟨rest, rfl, -⟩⟩ := exists_digits hRest
  · by_cases hSome : whole ++ rest = []
    · obtain ⟨rfl, rfl⟩ := List.append_eq_nil_iff.1 hSome
      cases h
    · exact ⟨_, .point hWhole hFraction hSome⟩
  · -- there is a second point
    rw [List.map_append, List.map_cons, List.map_append, List.map_cons, hPoint,
      Text.unsignedDecimal?_points (Text.isDigit_of_mem_map hWhole)
        (Text.isDigit_of_mem_map hFraction)] at h
    cases h

theorem IsDecimal.costOf_eq {part : List Char} {d : Decimal} (h : IsDecimal part d) :
    costOf part = d.toBinary64 false := by
  rw [costOf_eq_plain, h.unsignedDecimal?, Option.map_some, Option.getD_some]

theorem costOf_of_not_isDecimal {part : List Char} (hPart : ∀ c ∈ part, isCostPart c = true)
    (h : ∀ d, ¬ IsDecimal part d) : costOf part = .zero := by
  have hNone : Text.unsignedDecimal? (part.map Text.plainDigit) = none := by
    refine Option.eq_none_iff_forall_ne_some.2 fun d hd => ?_
    obtain ⟨d', hDecimal⟩ := exists_isDecimal hPart hd
    exact h d' hDecimal
  rw [costOf_eq_plain, hNone, Option.map_none, Option.getD_none]

/-- The cost that is recovered is the one that the text says. -/
theorem cost_eq_iff {text : List Char} {cost : Binary64} :
    ((figure? costLabel.toList isCostPart text).map costOf).getD .zero = cost ↔
      SaysCost text cost := by
  cases hFigure : figure? costLabel.toList isCostPart text with
  | none =>
    have hNone := not_isFigure_of_none hFigure
    constructor
    · rintro rfl
      exact .zero fun part _ h => absurd h (hNone part)
    · intro hSays
      cases hSays with
      | read h => exact absurd h (hNone _)
      | zero => rfl
  | some part =>
    rw [figure?_eq_some_iff] at hFigure
    rw [Option.map_some, Option.getD_some]
    constructor
    · rintro rfl
      by_cases hReadable : ∃ d, IsDecimal part d
      · obtain ⟨d, hd⟩ := hReadable
        rw [hd.costOf_eq]
        exact .read hFigure hd
      · have hUnreadable : ∀ d, ¬ IsDecimal part d := fun d hd => hReadable ⟨d, hd⟩
        rw [costOf_of_not_isDecimal hFigure.forall_isPart hUnreadable]
        exact .zero fun other d h => hFigure.unique h ▸ hUnreadable d
    · intro hSays
      cases hSays with
      | read h hd =>
        obtain rfl := hFigure.unique h
        exact hd.costOf_eq
      | zero hNone =>
        exact costOf_of_not_isDecimal hFigure.forall_isPart fun d => hNone part d hFigure

/-! ### All figures -/

/-- What a document says of a run: a figure that is not there, or that cannot be read, counts as
zero, and each figure is told by its own label alone. -/
structure Says (document : String) (usage : TokenUsage) (cost : Binary64) : Prop where
  input : SaysCount inputLabel.toList document.toList usage.input
  output : SaysCount outputLabel.toList document.toList usage.output
  total : SaysCount totalLabel.toList document.toList usage.total
  cost : SaysCost document.toList cost

/-- Every count that the document has a figure for can be read from it. -/
def HasReadableCounts (document : String) : Prop :=
  ∀ label ∈ [inputLabel, outputLabel, totalLabel], ∀ part,
    IsFigure label.toList isCountPart document.toList part → IsReadableCount part

section

variable {document : String} {usage : TokenUsage} {cost : Binary64}

theorem recover_of_counts (hInput : count inputLabel document.toList = .ok usage.input)
    (hOutput : count outputLabel document.toList = .ok usage.output)
    (hTotal : count totalLabel document.toList = .ok usage.total)
    (hCost : ((figure? costLabel.toList isCostPart document.toList).map costOf).getD .zero = cost) :
    recover document = .ok (usage, cost) := by
  rw [recover]
  simp only [hInput, hOutput, hTotal, hCost]
  rfl

theorem recover_eq_ok_iff : recover document = .ok (usage, cost) ↔
    HasReadableCounts document ∧ Says document usage cost := by
  constructor
  · intro h
    obtain ⟨hInput, hOutput, hTotal, hCost⟩ := recover_eq_ok h
    obtain ⟨hInputs, hInput⟩ := count_eq_ok_iff.1 hInput
    obtain ⟨hOutputs, hOutput⟩ := count_eq_ok_iff.1 hOutput
    obtain ⟨hTotals, hTotal⟩ := count_eq_ok_iff.1 hTotal
    refine ⟨?_, hInput, hOutput, hTotal, cost_eq_iff.1 hCost⟩
    intro label hLabel
    simp only [List.mem_cons, List.not_mem_nil, or_false] at hLabel
    rcases hLabel with rfl | rfl | rfl
    · exact hInputs
    · exact hOutputs
    · exact hTotals
  · rintro ⟨hCounts, hSays⟩
    refine recover_of_counts ?_ ?_ ?_ (cost_eq_iff.2 hSays.cost)
    · exact count_eq_ok_iff.2 ⟨hCounts _ (by simp), hSays.input⟩
    · exact count_eq_ok_iff.2 ⟨hCounts _ (by simp), hSays.output⟩
    · exact count_eq_ok_iff.2 ⟨hCounts _ (by simp), hSays.total⟩

theorem exists_says (document : String) : ∃ usage cost, Says document usage cost := by
  obtain ⟨input, hInput⟩ := exists_saysCount inputLabel.toList document.toList
  obtain ⟨output, hOutput⟩ := exists_saysCount outputLabel.toList document.toList
  obtain ⟨total, hTotal⟩ := exists_saysCount totalLabel.toList document.toList
  exact ⟨⟨input, output, total⟩, _, hInput, hOutput, hTotal, cost_eq_iff.1 rfl⟩

end

/-- Figures are recovered from a document exactly if every count that it has a figure for can be
read, and then they are what the document says. -/
theorem recover_returns_iff (document : String) :
    ((∃ usage cost, recover document = .ok (usage, cost)) ↔ HasReadableCounts document) ∧
      ∀ usage cost, recover document = .ok (usage, cost) ↔
        HasReadableCounts document ∧ Says document usage cost := by
  refine ⟨⟨?_, ?_⟩, fun usage cost => recover_eq_ok_iff⟩
  · rintro ⟨usage, cost, h⟩
    exact (recover_eq_ok_iff.1 h).1
  · intro hCounts
    obtain ⟨usage, cost, hSays⟩ := exists_says document
    exact ⟨usage, cost, recover_eq_ok_iff.2 ⟨hCounts, hSays⟩⟩

/-- A comma in the place of a count says nothing, but it keeps the figures from being recovered. -/
theorem not_recover_comma : Says "Input Tokens | ," .zero .zero ∧
    recover "Input Tokens | ," = .error .noDigits := by
  refine ⟨⟨?_, ?_, ?_, cost_eq_iff.1 (by decide)⟩, by decide⟩
  · have hFigure :
        figure? inputLabel.toList isCountPart "Input Tokens | ,".toList = some [','] := by decide
    refine .zero fun part h => ?_
    rw [(figure?_eq_some_iff.1 hFigure).unique h, IsReadableCount]
    decide
  · exact .zero fun part h => absurd h (not_isFigure_of_none (by decide) part)
  · exact .zero fun part h => absurd h (not_isFigure_of_none (by decide) part)

/-- A point in the place of the cost says nothing either, and counts as zero. -/
example : recover "Estimated Cost (USD)** | **$." = .ok (.zero, .zero) := by decide

end ReportPress.Statistics
