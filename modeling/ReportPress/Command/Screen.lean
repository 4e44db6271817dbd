import ReportPress.Text.Width

/-!
Text on a screen without styles. A document that is shown loses its control sequences; a line loses
a few control characters, and each of its tabs becomes blanks up to the next tab stop.
-/

namespace ReportPress.Screen

/-- The count of characters in the control sequence at the front of a text, zero without one. -/
def sequenceLength (cs : List Char) : Nat :=
  match cs with
  | '\x1b' :: '[' :: rest =>
    let isParameter := fun c : Char => c.isDigit || c == ';' || c == '?'
    if (rest.dropWhile isParameter).head?.any Char.isAlpha then
      (rest.takeWhile isParameter).length + 3
    else 0
  | _ => 0

/-- The text without its control sequences, the first `skipped` characters being part of one. -/
def dropSequences : Nat → List Char → List Char
  | _, [] => []
  | skipped + 1, _ :: rest => dropSequences skipped rest
  | 0, c :: rest =>
    match sequenceLength (c :: rest) with
    | 0 => c :: dropSequences 0 rest
    | length + 1 => dropSequences length rest

/-- A document as it is shown. -/
def document (text : String) : String := String.ofList (dropSequences 0 text.toList)

/-- A character that a line shows: not the bell, the backspace, or a feed or return other than the
end of a line. -/
def isShown (c : Char) : Bool := !([7, 8, 11, 12, 13].contains c.toNat)

/-- The distance of tab stops. -/
def tabWidth : Nat := 8

/-- The blanks that a tab stands for behind a part of a line that starts at a tab stop: one, and
those up to the next stop. -/
def tabBlanks (part : List Char) : Nat :=
  1 + (tabWidth - Text.width (part ++ [' ']) % tabWidth) % tabWidth

/-- The text with its tabs made blanks, `part` being what stands in front of it since the last tab
stop, last character first. -/
def expandTabs (part : List Char) : List Char → List Char
  | [] => []
  | c :: rest =>
    if c = '\t' then List.replicate (tabBlanks part.reverse) ' ' ++ expandTabs [] rest
    else if c = '\n' then c :: expandTabs [] rest
    else c :: expandTabs (c :: part) rest

/-- A line as it is shown. -/
def line (cs : List Char) : List Char := expandTabs [] (cs.filter isShown)

theorem dropSequences_of_notMem {cs : List Char} (h : '\x1b' ∉ cs) : dropSequences 0 cs = cs := by
  induction cs with
  | nil => rfl
  | cons c rest ih =>
    simp only [List.mem_cons, not_or] at h
    have hNone : sequenceLength (c :: rest) = 0 := by
      unfold sequenceLength
      split
      · rename_i hEq
        exact absurd (List.cons.inj hEq).1.symm h.1
      · rfl
    rw [dropSequences, hNone]
    simp only [ih h.2]

end ReportPress.Screen
