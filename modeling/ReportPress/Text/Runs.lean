/-!
Classes of characters as runs of code points: the first and the last of each, in ascending order.
-/

namespace ReportPress.Text

/-- Whether one of the runs holds the code of a character. -/
def inRuns (runs : List (Nat × Nat)) (c : Char) : Bool :=
  runs.any fun run => run.1 ≤ c.toNat && c.toNat ≤ run.2

end ReportPress.Text
