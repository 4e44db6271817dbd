import ReportPress.Markdown.Statistics
import ReportPress.Proofs.Text.Numeral

/-!
The search for the figure after a label. A label holds one pipe, so that it can only stand where the
text up to a pipe ends with the first half of the label and the text behind the pipe starts with the
other half. Main statements: `figure?_row`, a row under another name is passed over whatever its
value says, and `figure?_of_row`, in the row under its name a figure is found.
-/

namespace ReportPress.Statistics

/-- A row of two cells with the text behind it. -/
def rowChars (name value rest : List Char) : List Char :=
  '|' :: (name ++ '|' :: (value ++ '|' :: '\n' :: rest))

theorem takeWhile_pipe {part : List Char} (rest : List Char) (h : '|' ∉ part) :
    (part ++ '|' :: rest).takeWhile (· != '|') = part := by
  refine Text.takeWhile_append_stop rest (fun c hc => ?_) (by decide)
  simp only [bne_iff_ne, ne_eq]
  rintro rfl
  exact h hc

/-- The text up to the first pipe and the text behind it are determined. -/
theorem append_pipe_inj {a b c d : List Char} (ha : '|' ∉ a) (hc : '|' ∉ c)
    (h : a ++ '|' :: b = c ++ '|' :: d) : a = c ∧ b = d := by
  have hFront : a = c := by
    rw [← takeWhile_pipe b ha, h, takeWhile_pipe d hc]
  subst hFront
  exact ⟨rfl, List.tail_eq_of_cons_eq (List.append_cancel_left h)⟩

section

variable {before after : List Char} {isPart : Char → Bool}

theorem figure?_cons_of_label {label part : List Char} {c : Char} {rest : List Char}
    (h : label <+: c :: rest) (hPart : ((c :: rest).drop label.length).takeWhile isPart = part)
    (hNonempty : part ≠ []) : figure? label isPart (c :: rest) = some part := by
  have hSome : label.isPrefixOf (c :: rest) = true := List.isPrefixOf_iff_prefix.2 h
  simp [figure?, hSome, hPart, hNonempty]

theorem figure?_cons_of_not_label {label : List Char} {c : Char} {rest : List Char}
    (h : ¬ label <+: c :: rest) : figure? label isPart (c :: rest) = figure? label isPart rest := by
  have hNone : label.isPrefixOf (c :: rest) = false := by
    rwa [← Bool.not_eq_true, List.isPrefixOf_iff_prefix]
  simp [figure?, hNone]

variable (hBefore : '|' ∉ before)
include hBefore

/-- A label that starts in front of a pipe is around it. -/
theorem around_pipe {chunk rest : List Char} (hChunk : '|' ∉ chunk)
    (h : before ++ '|' :: after <+: chunk ++ '|' :: rest) : before = chunk ∧ after <+: rest := by
  obtain ⟨tail, hTail⟩ := h
  rw [List.append_assoc, List.cons_append] at hTail
  obtain ⟨hFront, hRest⟩ := append_pipe_inj hBefore hChunk hTail
  exact ⟨hFront, tail, hRest⟩

/-- The search passes a pipe that no label is around. -/
theorem figure?_pipe {chunk rest : List Char} (hNonempty : before ≠ []) (hChunk : '|' ∉ chunk)
    (h : ¬ (before <:+ chunk ∧ after <+: rest)) :
    figure? (before ++ '|' :: after) isPart (chunk ++ '|' :: rest) =
      figure? (before ++ '|' :: after) isPart rest := by
  induction chunk with
  | nil =>
    refine figure?_cons_of_not_label fun hPrefix => hNonempty ?_
    exact (@around_pipe _ after hBefore [] rest List.not_mem_nil hPrefix).1
  | cons c chunk ih =>
    rw [List.cons_append, figure?_cons_of_not_label, ih]
    · exact fun hMem => hChunk (List.mem_cons_of_mem _ hMem)
    · exact fun hAround => h ⟨hAround.1.trans (List.suffix_cons c chunk), hAround.2⟩
    · intro hPrefix
      obtain ⟨rfl, hAfter⟩ := around_pipe hBefore hChunk hPrefix
      exact h ⟨List.suffix_rfl, hAfter⟩

/-- The search ends at a label that has characters of the class behind it. -/
theorem figure?_found {front part rest : List Char} {stop : Char} (hFront : '|' ∉ front)
    (hPart : ∀ c ∈ part, isPart c = true) (hStop : isPart stop = false) (hNonempty : part ≠ []) :
    figure? (before ++ '|' :: after) isPart
      (front ++ (before ++ '|' :: (after ++ (part ++ stop :: rest)))) = some part := by
  induction front with
  | nil =>
    have hText : before ++ '|' :: (after ++ (part ++ stop :: rest)) =
        before ++ '|' :: after ++ (part ++ stop :: rest) := by
      rw [List.append_assoc, List.cons_append]
    rw [List.nil_append, hText]
    cases hCons : before ++ '|' :: after ++ (part ++ stop :: rest) with
    | nil => simp at hCons
    | cons c cs =>
      refine figure?_cons_of_label ?_ ?_ hNonempty
      · rw [← hCons]
        exact List.prefix_append _ _
      · rw [← hCons, List.drop_left]
        exact Text.takeWhile_append_stop rest hPart hStop
  | cons c front ih =>
    rw [List.cons_append, figure?_cons_of_not_label]
    · exact ih fun hMem => hFront (List.mem_cons_of_mem _ hMem)
    -- a label that started here would have its pipe where the text has none yet
    · intro hPrefix
      rw [← List.cons_append, ← List.append_assoc] at hPrefix
      have hChunk : '|' ∉ c :: front ++ before := by
        rw [List.mem_append]
        exact fun hMem => hMem.elim hFront hBefore
      have hEq := (around_pipe hBefore hChunk hPrefix).1
      have := congrArg List.length hEq
      simp only [List.length_append, List.length_cons] at this
      omega

variable {front name value rest : List Char} (hNonempty : before ≠ []) (hFront : '|' ∉ front)
  (hFrontLast : ¬ before <:+ front)
include hNonempty hFront hFrontLast

/-- The search passes a row under another name, whatever its value says. -/
theorem figure?_row {c : Char} (hAfter : c ∈ after.head?) (hc : c ≠ '\n') (hName : '|' ∉ name)
    (hOther : ¬ before <:+ name) (hValue : '|' ∉ value) :
    figure? (before ++ '|' :: after) isPart (front ++ rowChars name value rest) =
      figure? (before ++ '|' :: after) isPart ('\n' :: rest) := by
  have hEnd : ¬ after <+: '\n' :: rest := by
    cases after with
    | nil => simp at hAfter
    | cons d after =>
      rintro ⟨tail, hTail⟩
      obtain rfl : d = c := by simpa using hAfter
      exact hc (List.head_eq_of_cons_eq hTail)
  rw [rowChars, figure?_pipe hBefore hNonempty hFront fun h => hFrontLast h.1,
    figure?_pipe hBefore hNonempty hName fun h => hOther h.1,
    figure?_pipe hBefore hNonempty hValue fun h => hEnd h.2]

theorem figure?_of_row {lead part tail : List Char} {stop : Char} (hLead : '|' ∉ lead)
    (hPart : ∀ c ∈ part, isPart c = true) (hStop : isPart stop = false) (hSome : part ≠ []) :
    figure? (before ++ '|' :: after) isPart
      (front ++ rowChars (lead ++ before) (after ++ (part ++ stop :: tail)) rest) = some part := by
  rw [rowChars, figure?_pipe hBefore hNonempty hFront fun h => hFrontLast h.1,
    List.append_assoc, List.append_assoc, List.append_assoc, List.cons_append]
  exact figure?_found hBefore hLead hPart hStop hSome

end

end ReportPress.Statistics
