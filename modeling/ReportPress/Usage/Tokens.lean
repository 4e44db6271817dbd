import ReportPress.Record.Field

/-!
Token counts. A record of counts tells the counts that were given apart from those that were not,
which are zero; counts add up count by count.
-/

namespace ReportPress

/-- The tokens that a run used. -/
structure TokenUsage where
  input : Nat
  output : Nat
  total : Nat
  deriving DecidableEq

/-- Token counts as they were given. -/
structure UsageRecord where
  input : Option Nat
  output : Option Nat
  total : Option Nat
  extras : Members

namespace TokenUsage

def zero : TokenUsage := ⟨0, 0, 0⟩

/-- The counts of two runs together. -/
def add (u v : TokenUsage) : TokenUsage :=
  ⟨u.input + v.input, u.output + v.output, u.total + v.total⟩

instance : Add TokenUsage := ⟨add⟩

/-- The counts of all runs together. -/
def aggregate (usages : List TokenUsage) : TokenUsage := usages.foldl (· + ·) zero

/-- The counts of a run whose tokens are its input and its output. -/
def ofInputOutput (input output : Nat) : TokenUsage := ⟨input, output, input + output⟩

end TokenUsage

namespace UsageRecord

open Record

def inputField : Field := ⟨"input_tokens", "inputTokens"⟩
def outputField : Field := ⟨"output_tokens", "outputTokens"⟩
def totalField : Field := ⟨"total_tokens", "totalTokens"⟩

def fields : List Field := [inputField, outputField, totalField]

/-- Token counts, given as an object. -/
def check : Json → Check UsageRecord :=
  object "TokenUsage" fun members =>
    Check.map3 (fun input output total => ⟨input, output, total, others fields members⟩)
      (inputField.optional natural members)
      (outputField.optional natural members)
      (totalField.optional natural members)

/-- The counts, zero where they were not given. -/
def usage (record : UsageRecord) : TokenUsage :=
  ⟨record.input.getD 0, record.output.getD 0, record.total.getD 0⟩

/-- The counts as they are written. -/
def dump? (record : UsageRecord) : Option Json :=
  Record.dump? (record.extras.map (·.2)) <|
    .obj (inputField.member (record.input.map (.int ·)) ++
      outputField.member (record.output.map (.int ·)) ++
      totalField.member (record.total.map (.int ·)) ++ Json.finiteMembers record.extras)

end UsageRecord

end ReportPress
