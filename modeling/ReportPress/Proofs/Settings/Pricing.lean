import ReportPress.Artifact.Outcome
import ReportPress.Proofs.Except
import ReportPress.Proofs.Record.Faithful
import ReportPress.Settings

/-!
Settings and the prices that they give. Settings load where every rate that is given reads as a
number, and their prices are refused where one of these is negative or the not-a-number. Main
statement: `pricing_cases`.
-/

namespace ReportPress

section

open Record

variable {source : Source} {x y : Binary64}

theorem Record.number_str_eq_ok_iff {text : String} :
    number source (.str text) = .ok x ↔ Text.number? text = some x := by
  unfold number
  dsimp only
  cases Text.number? text with
  | none => exact ⟨nofun, nofun⟩
  | some found => simp only [Except.ok.injEq, Option.some.injEq]

theorem Record.price_float_eq_ok_iff :
    price source (.float x) = .ok y ↔ x.isNonneg = true ∧ x = y := by
  unfold price number
  dsimp only
  split
  · rename_i hNonneg
    simp only [hNonneg, true_and, Except.ok.injEq]
  · rename_i hNegative
    exact ⟨nofun, fun h => absurd h.1 hNegative⟩

end

namespace PricingRecord

open Record

variable {input output : Binary64} {record : PricingRecord}

/-- Two rates, given as an object under the plain names. -/
def ofRates (input output : Binary64) : Members :=
  [(inputField.name, .float input), (outputField.name, .float output)]

theorem check_ofRates_eq_ok_iff : check .data (.obj (ofRates input output)) = .ok record ↔
    input.isNonneg = true ∧ output.isNonneg = true ∧ record = ⟨some input, some output, []⟩ := by
  have hInput : inputField.value? (ofRates input output) = some (.float input) := rfl
  have hOutput : outputField.value? (ofRates input output) = some (.float output) := rfl
  have hOthers : others fields (ofRates input output) = [] := rfl
  unfold check object
  dsimp only
  rw [Check.map2_eq_ok_iff]
  simp only [Field.optional_eq_ok_iff, hInput, hOutput, hOthers]
  constructor
  · rintro ⟨_, _, ⟨hIn⟩, ⟨hOut⟩, rfl⟩
    obtain ⟨hInput, rfl⟩ := price_float_eq_ok_iff.1 hIn
    obtain ⟨hOutput, rfl⟩ := price_float_eq_ok_iff.1 hOut
    exact ⟨hInput, hOutput, rfl⟩
  · rintro ⟨hIn, hOut, rfl⟩
    exact ⟨_, _, .some (price_float_eq_ok_iff.2 ⟨hIn, rfl⟩),
      .some (price_float_eq_ok_iff.2 ⟨hOut, rfl⟩), rfl⟩

end PricingRecord

namespace Settings

/-- What the environment, or else the settings file, gives for a setting. -/
def given? (environment : List (String × String)) (file : Option String) (name : String) :
    Option String :=
  find? environment
    (file.elim [] fun text => EnvFile.read environment (Text.unifyLineEnds text.toList)) name

/-- A rate is the number that is given, or else the standard one. -/
def IsRate (standard : Binary64) (value : Option String) (x : Binary64) : Prop :=
  match value with
  | some text => Text.number? text = some x
  | none => x = standard

/-- The settings that hold the rates and what is given for everything else. -/
def holding (given : String → Option String) (input output : Binary64) : Settings where
  schemasDirectory := (given "schemas_directory").getD standard.schemasDirectory
  outputBaseDirectory := (given "output_base_directory").getD standard.outputBaseDirectory
  schemaFile := given "schema_file"
  inputCostPerMillion := input
  outputCostPerMillion := output
  logLevel := (given "log_level").getD standard.logLevel

/-- Whether a rate, if it is given, reads as a number that is not negative. -/
def isPrice (value : Option String) : Bool :=
  value.all fun text => (Text.number? text).any Binary64.isNonneg

/-- Whether what is given for both rates is a price. -/
def hasPrices (environment : List (String × String)) (file : Option String) : Bool :=
  isPrice (given? environment file "input_cost_per_million") &&
    isPrice (given? environment file "output_cost_per_million")

/-- The estimate of what tokens cost at the prices that the settings give. -/
def estimate (settings : Settings) (usage : TokenUsage) : Except Failure Binary64 := do
  let pricing ← settings.pricing.mapError .rejected
  (pricing.cost usage).mapError .cost

variable {environment : List (String × String)} {file : Option String} {settings : Settings}
  {pricing : Pricing} {usage : TokenUsage}

theorem rate_eq_ok_iff {name : String} {standard x : Binary64} {value : Option String} :
    rate name standard value = .ok x ↔ IsRate standard value x := by
  cases value with
  | none => exact ⟨fun h => (Except.ok.inj h).symm, fun h => congrArg Except.ok (Eq.symm h)⟩
  | some text => rw [rate, Check.under_eq_ok_iff, IsRate, Record.number_str_eq_ok_iff]

theorem load_eq (environment : List (String × String)) (file : Option String) :
    load environment file = (Check.map2 (holding (given? environment file))
      (rate "input_cost_per_million" standard.inputCostPerMillion
        (given? environment file "input_cost_per_million"))
      (rate "output_cost_per_million" standard.outputCostPerMillion
        (given? environment file "output_cost_per_million"))).mapError (⟨"Settings", .data, ·⟩) := by
  cases file <;> rfl

theorem load_eq_ok_iff : load environment file = .ok settings ↔
    ∃ input output,
      IsRate standard.inputCostPerMillion (given? environment file "input_cost_per_million") input ∧
        IsRate standard.outputCostPerMillion
            (given? environment file "output_cost_per_million") output ∧
          settings = holding (given? environment file) input output := by
  rw [load_eq, Except.mapError_eq_ok_iff, Check.map2_eq_ok_iff]
  simp only [rate_eq_ok_iff, eq_comm (a := settings)]

theorem isRate_input (h : load environment file = .ok settings) :
    IsRate standard.inputCostPerMillion (given? environment file "input_cost_per_million")
      settings.inputCostPerMillion := by
  obtain ⟨input, output, hInput, -, rfl⟩ := load_eq_ok_iff.1 h
  exact hInput

theorem isRate_output (h : load environment file = .ok settings) :
    IsRate standard.outputCostPerMillion (given? environment file "output_cost_per_million")
      settings.outputCostPerMillion := by
  obtain ⟨input, output, -, hOutput, rfl⟩ := load_eq_ok_iff.1 h
  exact hOutput

theorem isPrice_eq {standard x : Binary64} {value : Option String}
    (hStandard : standard.isNonneg = true) (h : IsRate standard value x) :
    isPrice value = x.isNonneg := by
  cases value with
  | none =>
    obtain rfl : x = standard := h
    exact hStandard.symm
  | some text =>
    have hRead : Text.number? text = some x := h
    rw [isPrice, Option.all_some, hRead, Option.any_some]

theorem pricing_eq_ok_iff : settings.pricing = .ok pricing ↔
    settings.inputCostPerMillion.isNonneg = true ∧ settings.outputCostPerMillion.isNonneg = true ∧
      pricing = ⟨settings.inputCostPerMillion, settings.outputCostPerMillion⟩ := by
  unfold Settings.pricing Record.ofData
  constructor
  · intro h
    obtain ⟨record, hRecord, rfl⟩ := Except.map_eq_ok_iff.1 h
    obtain ⟨hInput, hOutput, rfl⟩ :=
      PricingRecord.check_ofRates_eq_ok_iff.1 (Except.mapError_eq_ok_iff.1 hRecord)
    exact ⟨hInput, hOutput, rfl⟩
  · rintro ⟨hInput, hOutput, rfl⟩
    have hRecord := PricingRecord.check_ofRates_eq_ok_iff.2 ⟨hInput, hOutput, rfl⟩
    unfold PricingRecord.ofRates at hRecord
    rw [hRecord]
    rfl

/-- Settings that load give the rates that they hold as prices, if what is given for both is a
price, and no prices otherwise. -/
theorem pricing_cases (h : load environment file = .ok settings) :
    (hasPrices environment file = true ∧ settings.pricing =
        .ok ⟨settings.inputCostPerMillion, settings.outputCostPerMillion⟩) ∨
      hasPrices environment file = false ∧ ∃ rejection, settings.pricing = .error rejection := by
  have hStandard : standard.inputCostPerMillion.isNonneg = true ∧
      standard.outputCostPerMillion.isNonneg = true := by
    decide +kernel
  rw [hasPrices, isPrice_eq hStandard.1 (isRate_input h), isPrice_eq hStandard.2 (isRate_output h)]
  cases hPricing : settings.pricing with
  | ok prices =>
    obtain ⟨hInput, hOutput, rfl⟩ := pricing_eq_ok_iff.1 hPricing
    exact .inl ⟨Bool.and_eq_true_iff.2 ⟨hInput, hOutput⟩, rfl⟩
  | error rejection =>
    refine .inr ⟨Bool.eq_false_iff.2 fun hBoth => ?_, rejection, rfl⟩
    obtain ⟨hInput, hOutput⟩ := Bool.and_eq_true_iff.1 hBoth
    rw [pricing_eq_ok_iff.2 ⟨hInput, hOutput, rfl⟩] at hPricing
    cases hPricing

theorem estimate_of_pricing (h : settings.pricing = .ok pricing) :
    settings.estimate usage = (pricing.cost usage).mapError .cost := by
  rw [estimate, h, Except.mapError_ok_bind]

theorem estimate_of_rejection {rejection : Rejection} (h : settings.pricing = .error rejection) :
    settings.estimate usage = .error (.rejected rejection) := by
  rw [estimate, h, Except.mapError_error_bind]

end Settings

end ReportPress
