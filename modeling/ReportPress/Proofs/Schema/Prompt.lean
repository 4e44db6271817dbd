import ReportPress.Proofs.Text.Line
import ReportPress.Schema.Extraction

/-!
The fields of a first page, told three times: as the names of an extraction's fields, as what its
payload requires, and as lines of its instructions. Main statement: `fieldNames_agree`.
-/

namespace ReportPress

namespace Json

/-- What stands at the end of a way through objects, which is given by the keys on it. -/
def valueAt? : Json → List String → Option Json
  | value, [] => some value
  | value, key :: way => (value.get? key).bind (valueAt? · way)

/-- The keys of the object at the end of a way, none where no object stands there. -/
def keysAt (value : Json) (way : List String) : List String :=
  match value.valueAt? way with
  | some (.obj members) => Members.keys members
  | _ => []

theorem valueAt?_append (value : Json) (way more : List String) :
    value.valueAt? (way ++ more) = (value.valueAt? way).bind (·.valueAt? more) := by
  induction way generalizing value with
  | nil => rfl
  | cons key way ih =>
    rw [List.cons_append, valueAt?, valueAt?]
    cases value.get? key with
    | none => rfl
    | some next => exact ih next

end Json

namespace Schema

theorem declared_closed (properties : Members) : declared (closed properties) = properties := rfl

theorem get?_declared (node : Json) (key : String) :
    Members.get? (declared node) key = node.valueAt? ["properties", key] := by
  simp only [declared, Json.valueAt?, Option.bind_fun_some]
  cases node.get? "properties" with
  | none => rfl
  | some value => cases value <;> rfl

theorem keys_declared (node : Json) : (declared node).keys = node.keysAt ["properties"] := by
  simp only [declared, Json.keysAt, Json.valueAt?]
  cases node.get? "properties" with
  | none => rfl
  | some value => cases value <;> rfl

/-- The lines of the instructions that list the fields; without fields there is an empty one. -/
def fieldLines (names : List String) : List String :=
  if names = [] then [""] else names.map ("- " ++ ·)

theorem fieldLines_ne_nil (names : List String) : fieldLines names ≠ [] := by
  unfold fieldLines
  split <;> simp [*]

theorem fieldList_eq (names : List String) : fieldList names = Text.joinLines (fieldLines names) := by
  unfold fieldList fieldLines
  split
  · rename_i hNone
    rw [hNone]
    rfl
  · rfl

/-- A line with a field is not empty, so no list of fields reads as that of no fields. -/
theorem fieldLines_inj {names others : List String} (h : fieldLines names = fieldLines others) :
    names = others := by
  have hNonempty (names : List String) : [""] ≠ names.map ("- " ++ ·) := by
    cases names with
    | nil => exact nofun
    | cons name names =>
      intro hEq
      have hHead := congrArg String.toList (List.head_eq_of_cons_eq hEq)
      simp at hHead
  unfold fieldLines at h
  split at h
  · split at h
    · rename_i hNames hOthers
      rw [hNames, hOthers]
    · exact absurd h (hNonempty others)
  · split at h
    · exact absurd h.symm (hNonempty names)
    · exact (List.map_inj_right fun _ _ => String.append_right_inj _ |>.1).1 h

theorem notMem_fieldLines {names : List String} (h : ∀ name ∈ names, '\n' ∉ name.toList) :
    ∀ line ∈ fieldLines names, '\n' ∉ line.toList := by
  unfold fieldLines
  split
  · simp
  · intro line hLine
    obtain ⟨name, hName, rfl⟩ := List.mem_map.1 hLine
    simpa using h name hName

/-- The first line of the instructions. -/
def opening (schemaName : String) : String :=
  "You are analyzing the first page of a " ++ reportType schemaName ++
    " report. Extract all information from this image."

theorem reportType_cases (schemaName : String) :
    reportType schemaName = "sector" ∨ reportType schemaName = "stock research" := by
  unfold reportType
  split
  · exact .inl rfl
  · exact .inr rfl

theorem notMem_opening (schemaName : String) : '\n' ∉ (opening schemaName).toList := by
  unfold opening
  rcases reportType_cases schemaName with hType | hType <;> rw [hType] <;> decide

theorem reportType_of_opening {schemaName other : String} (h : opening schemaName = opening other) :
    reportType schemaName = reportType other := by
  unfold opening at h
  have hFront := (String.append_left_inj _).1 h
  exact (String.append_right_inj _).1 hFront

/-- The lines of the instructions. -/
def promptLines (names : List String) (schemaName : String) : List String :=
  [opening schemaName, "", "Extract the following fields:"] ++
    (fieldLines names ++ "" :: instructions)

theorem firstPagePrompt_eq (schema : Json) (schemaName : String) :
    firstPagePrompt schema schemaName =
      Text.joinLines (promptLines (declared schema).keys schemaName) := by
  have hNested := Text.joinLines_nested [opening schemaName, "", "Extract the following fields:"]
    (fieldLines_ne_nil (declared schema).keys) (List.cons_ne_nil "" instructions)
  rw [promptLines, ← hNested, ← fieldList_eq]
  rfl

theorem notMem_promptLines {names : List String} (h : ∀ name ∈ names, '\n' ∉ name.toList)
    (schemaName : String) : ∀ line ∈ promptLines names schemaName, '\n' ∉ line.toList := by
  have hHead : '\n' ∉ "".toList ∧ '\n' ∉ "Extract the following fields:".toList := by decide
  have hTail : ∀ line ∈ "" :: instructions, '\n' ∉ line.toList := by decide
  intro line hLine
  rcases List.mem_append.1 hLine with hFront | hBack
  · rcases List.mem_cons.1 hFront with rfl | hFront
    · exact notMem_opening schemaName
    · simp only [List.mem_cons, List.not_mem_nil, or_false] at hFront
      rcases hFront with rfl | rfl
      · exact hHead.1
      · exact hHead.2
  · rcases List.mem_append.1 hBack with hField | hBack
    · exact notMem_fieldLines h line hField
    · exact hTail line hBack

/-- The instructions tell the kind of report and the fields, whatever texts the fields imitate. -/
theorem firstPagePrompt_inj {schema other : Json} {schemaName otherName : String}
    (hSchema : ∀ name ∈ (declared schema).keys, '\n' ∉ name.toList)
    (hOther : ∀ name ∈ (declared other).keys, '\n' ∉ name.toList)
    (h : firstPagePrompt schema schemaName = firstPagePrompt other otherName) :
    (declared schema).keys = (declared other).keys ∧ reportType schemaName = reportType otherName := by
  rw [firstPagePrompt_eq, firstPagePrompt_eq] at h
  have hLines := Text.joinLines_inj (List.cons_ne_nil _ _) (List.cons_ne_nil _ _)
    (notMem_promptLines hSchema schemaName) (notMem_promptLines hOther otherName) h
  obtain ⟨hOpening, hRest⟩ := List.cons.inj hLines
  obtain ⟨-, hRest⟩ := List.cons.inj hRest
  obtain ⟨-, hFields⟩ := List.cons.inj hRest
  exact ⟨fieldLines_inj (List.append_cancel_right hFields), reportType_of_opening hOpening⟩

namespace Extraction

variable (name : String) (document : Json)

theorem declared_firstPage :
    (declared (ofDocument name document).firstPage).keys =
      document.keysAt ["properties", "firstPage", "properties"] := by
  have hFirstPage : (ofDocument name document).firstPage =
      strict ((Members.get? (declared document) firstPageKey).getD (.obj [])) := rfl
  have hWay : document.valueAt? ["properties", "firstPage", "properties"] =
      (document.valueAt? ["properties", firstPageKey]).bind (·.valueAt? ["properties"]) :=
    Json.valueAt?_append document ["properties", firstPageKey] ["properties"]
  rw [hFirstPage, strict, declared_closed, keys_propertyList, keys_declared, get?_declared]
  unfold Json.keysAt
  rw [hWay]
  cases document.valueAt? ["properties", firstPageKey] <;> rfl

theorem prompt_eq : (ofDocument name document).prompt =
    Text.joinLines (promptLines (document.keysAt ["properties", "firstPage", "properties"]) name) := by
  rw [← declared_firstPage name document]
  exact firstPagePrompt_eq _ _

/-- The fields of an extraction are those that its payload requires and those that the document
declares, and they are told by its instructions if they hold no line feeds. -/
theorem fieldNames_agree :
    (ofDocument name document).firstPageFormat.valueAt? ["json_schema", "schema", "required"] =
        some (.arr ((ofDocument name document).fieldNames.map .str)) ∧
      (ofDocument name document).fieldNames =
        document.keysAt ["properties", "firstPage", "properties"] ∧
      ∀ (other : String) (another : Json),
        (∀ field ∈ (ofDocument name document).fieldNames, '\n' ∉ field.toList) →
        (∀ field ∈ (ofDocument other another).fieldNames, '\n' ∉ field.toList) →
        (ofDocument name document).prompt = (ofDocument other another).prompt →
          (ofDocument name document).fieldNames = (ofDocument other another).fieldNames ∧
            reportType name = reportType other := by
  refine ⟨?_, declared_firstPage name document, ?_⟩
  · rfl
  · intro other another hFields hOthers hPrompt
    exact firstPagePrompt_inj hFields hOthers hPrompt

/-- Fields that look like parts of the instructions. -/
def imitatingDocument (node : Json) : Json :=
  .obj [("properties", .obj [("firstPage", .obj [("properties",
    .obj [("{fields_list}", node), ("", node), ("- For dates, format as YYYY-MM-DD", node),
      ("Instructions:", node)])])])]

theorem fieldNames_agree_imitation :
    (ofDocument "sector_report" (imitatingDocument .null)).prompt =
        (ofDocument "my sectors" (imitatingDocument (.obj [("type", .str "string")]))).prompt ∧
      (ofDocument "sector_report" (imitatingDocument .null)).fieldNames =
        (ofDocument "my sectors" (imitatingDocument (.obj [("type", .str "string")]))).fieldNames ∧
      reportType "sector_report" = reportType "my sectors" := by
  obtain ⟨-, hNames, hTold⟩ := fieldNames_agree "sector_report" (imitatingDocument .null)
  obtain ⟨-, hOthers, -⟩ :=
    fieldNames_agree "my sectors" (imitatingDocument (.obj [("type", .str "string")]))
  have hPrompt : (ofDocument "sector_report" (imitatingDocument .null)).prompt =
      (ofDocument "my sectors" (imitatingDocument (.obj [("type", .str "string")]))).prompt := by
    rw [prompt_eq, prompt_eq]
    decide +kernel
  refine ⟨hPrompt, hTold _ _ ?_ ?_ hPrompt⟩
  · rw [hNames]
    decide
  · rw [hOthers]
    decide

end Extraction

end Schema

end ReportPress
