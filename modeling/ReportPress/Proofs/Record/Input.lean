import ReportPress.Proofs.Json.Reading
import ReportPress.Record.Field

/-!
What records are read from, data and JSON text alike. Main statement: `Input.read_eq_ok_iff`, a
record is read if there is a value that passes its check.
-/

namespace ReportPress.Record

/-- What a record is read from: data in which the keys of every object are different, or JSON
text. -/
inductive Input
  | data (value : Json) (distinct : Json.Throughout Json.HasDistinctKeys value)
  | text (written : String)

namespace Input

/-- The value that is given, unless it is given by malformed text. -/
def value? : Input → Option Json
  | .data value _ => some value
  | .text written => (Json.read .records written).toOption

/-- The record that is read. -/
def read {α : Type} (model : String) (check : Json → Check α) : Input → Except Rejection α
  | .data value _ => ofData model check value
  | .text written => ofText model check written

section

variable {α : Type} {model : String} {check : Json → Check α} {input : Input} {value : Json}

theorem distinct_of_value? (h : input.value? = some value) :
    Json.Throughout Json.HasDistinctKeys value := by
  cases input with
  | data given distinct =>
    obtain rfl : given = value := Option.some.inj h
    exact distinct
  | text written =>
    rw [value?] at h
    cases hRead : Json.read .records written with
    | error stop =>
      rw [hRead] at h
      cases h
    | ok found =>
      rw [hRead] at h
      obtain rfl : found = value := Option.some.inj h
      exact Json.distinct_of_read hRead

/-- A value that is given is read as its check says. -/
theorem toOption_read (model : String) (check : Json → Check α) (input : Input) :
    (input.read model check).toOption = input.value?.bind fun value => (check value).toOption := by
  cases input with
  | data given distinct =>
    rw [read, ofData, value?, Option.bind_some]
    cases check given <;> rfl
  | text written =>
    rw [read, ofText, value?]
    cases Json.read .records written with
    | error stop => rfl
    | ok found =>
      change _ = (check found).toOption
      cases hCheck : check found <;> simp only [hCheck] <;> rfl

theorem read_eq_ok_iff {a : α} : input.read model check = .ok a ↔
    ∃ value, input.value? = some value ∧ check value = .ok a := by
  have hOption : ∀ {ε : Type} {result : Except ε α}, result = .ok a ↔ result.toOption = some a := by
    intro ε result
    cases result <;> simp [Except.toOption]
  simp only [hOption, toOption_read, Option.bind_eq_some_iff]

end

end Input

end ReportPress.Record
