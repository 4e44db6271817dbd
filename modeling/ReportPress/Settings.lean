import ReportPress.Settings.EnvFile
import ReportPress.Text.Line
import ReportPress.Usage.Pricing

/-!
Settings. Each is taken from the environment, or from a settings file, or has a standard value;
names are told apart without regard to case, and of two spellings of a name the last one counts.
-/

namespace ReportPress

/-- The settings of the program. -/
structure Settings where
  schemasDirectory : String
  outputBaseDirectory : String
  schemaFile : Option String
  inputCostPerMillion : Binary64
  outputCostPerMillion : Binary64
  logLevel : String

namespace Settings

/-- The settings where nothing is set. -/
def standard : Settings :=
  ⟨"./schemas", "./extraction", none, Pricing.standard.input, Pricing.standard.output, "INFO"⟩

/-- The prices that the settings give; they must not be negative. -/
def pricing (settings : Settings) : Except Rejection Pricing :=
  (Record.ofData "Pricing" (PricingRecord.check .data)
    (.obj [(PricingRecord.inputField.name, .float settings.inputCostPerMillion),
      (PricingRecord.outputField.name, .float settings.outputCostPerMillion)])).map
    PricingRecord.pricing

/-- A text, or the standard one where none or an empty one is given. -/
def choose (given : Option String) (standard : String) : String :=
  match given with
  | some text => if text.isEmpty then standard else text
  | none => standard

/-- A name without regard to case. -/
def foldCase (name : String) : String := name.map Char.toLower

/-- The value of a setting: the last one under its name in the environment, or else in the file. -/
def find? (environment : List (String × String)) (file : List (String × Option String))
    (name : String) : Option String :=
  (environment.reverse.find? fun entry => foldCase entry.1 == name).map (·.2) |>.or
    ((file.reverse.find? fun entry => foldCase entry.1 == name).bind (·.2))

/-- A price, the standard one where none is set. -/
def rate (name : String) (standard : Binary64) (value : Option String) : Check Binary64 :=
  match value with
  | some text => (Record.number .data (.str text)).under (.key name)
  | none => .ok standard

/-- The variables in an environment block, where each is a name, an equals sign and a value, and a
null character ends it. -/
def environmentOf (block : String) : List (String × String) :=
  (block.splitOn "\x00").filterMap fun entry =>
    match entry.splitOn "=" with
    | name :: first :: rest => some (name, "=".intercalate (first :: rest))
    | _ => none

/-- The settings of an environment and the text of a settings file, if there is one. -/
def load (environment : List (String × String)) (file : Option String) :
    Except Rejection Settings :=
  let bound := match file with
    | some text => EnvFile.read environment (Text.unifyLineEnds text.toList)
    | none => []
  let value := find? environment bound
  (Check.map2
    (fun input output =>
      { schemasDirectory := (value "schemas_directory").getD standard.schemasDirectory
        outputBaseDirectory := (value "output_base_directory").getD standard.outputBaseDirectory
        schemaFile := value "schema_file"
        inputCostPerMillion := input
        outputCostPerMillion := output
        logLevel := (value "log_level").getD standard.logLevel })
    (rate "input_cost_per_million" standard.inputCostPerMillion (value "input_cost_per_million"))
    (rate "output_cost_per_million" standard.outputCostPerMillion
      (value "output_cost_per_million"))).mapError (⟨"Settings", .data, ·⟩)

end Settings

end ReportPress
