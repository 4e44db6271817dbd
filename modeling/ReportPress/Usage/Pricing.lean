import ReportPress.Usage.Tokens

/-!
Prices in US dollars per million tokens, and the cost of a run at these prices.
-/

namespace ReportPress

/-- The prices of input and output. -/
structure Pricing where
  input : Binary64
  output : Binary64
  deriving DecidableEq

/-- Prices as they were given. -/
structure PricingRecord where
  input : Option Binary64
  output : Option Binary64
  extras : Members

namespace PricingRecord

open Record

def inputField : Field := ⟨"input_per_million", "inputPerMillion"⟩
def outputField : Field := ⟨"output_per_million", "outputPerMillion"⟩

def fields : List Field := [inputField, outputField]

/-- Prices, given as an object. -/
def check (source : Source) : Json → Check PricingRecord :=
  object "Pricing" fun members =>
    Check.map2 (fun input output => ⟨input, output, others fields members⟩)
      (inputField.optional (price source) members) (outputField.optional (price source) members)

end PricingRecord

namespace Pricing

/-- The prices that hold where none are given: 2 for input and 8 for output. -/
def standard : Pricing :=
  ⟨(Binary64.ofInt? 2).getD .zero, (Binary64.ofInt? 8).getD .zero⟩

/-- A count too large for the cost of its tokens to be a finite number. -/
inductive CostError
  | quotientTooLarge
  deriving DecidableEq

/-- The cost of tokens at a price per million: the count of millions is rounded once and the
product once more. -/
def costOf (tokens : Nat) (rate : Binary64) : Except CostError Binary64 :=
  match Binary64.ofQuotient? tokens 1000000 with
  | some millions => .ok (millions * rate)
  | none => .error .quotientTooLarge

/-- The cost of a run: that of its input and of its output. -/
def cost (pricing : Pricing) (usage : TokenUsage) : Except CostError Binary64 := do
  let input ← costOf usage.input pricing.input
  let output ← costOf usage.output pricing.output
  return input + output

def CostError.message : CostError → String
  | .quotientTooLarge => "integer division result too large for a float"

end Pricing

namespace PricingRecord

/-- The prices, the standard ones where they were not given. -/
def pricing (record : PricingRecord) : Pricing :=
  ⟨record.input.getD Pricing.standard.input, record.output.getD Pricing.standard.output⟩

/-- The prices as they are written. -/
def dump? (record : PricingRecord) : Option Json :=
  Record.dump? (record.extras.map (·.2)) <|
    .obj (inputField.member (record.input.map .float) ++
      outputField.member (record.output.map .float) ++ Json.finiteMembers record.extras)

end PricingRecord

end ReportPress
