import ReportPress.Command.Markup.Expression.Quoted

/-!
Expressions: a text is read as one, or it is told what is wrong with it.
-/

namespace ReportPress.Markup.Expression

/-- Reads an expression that starts in a line; one inside a text is read in brackets. The fuel
bounds the depth of texts inside one another. -/
def readFrom : Nat → Rule → (Fault → Fault) → Nat → List Char → Except Fault Tree
  | 0, _, outer, _, _ => .error (outer .unexpected)
  | depth + 1, rule, outer, line, cs =>
    let nested := fun line cs =>
      match readFrom depth .starExpressions .nested line ('(' :: cs ++ [')', '\n']) with
      | .ok _ => .ok ()
      | .error fault => .error (.inside fault)
    Reader.tree (Tokens.ofText line cs) (Quoted.joined nested) rule outer

/-- The text with one character for each end of a line. -/
def withPlainLineEnds : List Char → List Char
  | '\r' :: '\n' :: rest => '\n' :: withPlainLineEnds rest
  | c :: rest => (if c = '\r' then '\n' else c) :: withPlainLineEnds rest
  | [] => []

/-- The expression that a text is, blanks in front of it apart. -/
def read (cs : List Char) : Except Fault Tree :=
  let text := withPlainLineEnds (cs.dropWhile fun c => c == ' ' || c == '\t')
  readFrom (text.length + 1) .whole id 1 text

/-- A text without returns keeps its line ends. -/
theorem withPlainLineEnds_of_notMem {cs : List Char} (h : '\r' ∉ cs) :
    withPlainLineEnds cs = cs := by
  induction cs with
  | nil => rfl
  | cons c rest ih =>
    simp only [List.mem_cons, not_or] at h
    have hc : c ≠ '\r' := fun hEq => h.1 hEq.symm
    rw [withPlainLineEnds, if_neg hc, ih h.2]
    rintro _ rfl
    exact absurd rfl hc

end ReportPress.Markup.Expression
