import ReportPress.Json

/-!
Checks of records. A check gives a value or all the faults of its input, each with its place, in the
order in which the parts are declared. Main statements: a combination of checks succeeds exactly if
all of them do.
-/

namespace ReportPress

/-- One step from a value to a part of it. -/
inductive Step
  | key (name : String)
  | index (position : Nat)
  deriving DecidableEq

/-- What is wrong with a value. -/
inductive Cause
  | malformed
  | missing
  | notObject (model : String)
  | notList
  | notText
  | unknownStyle
  | notWhole
  | unreadableWhole
  | wholeTooLong
  | fractional
  | notFinite
  | notNumber
  | unreadableNumber
  | belowZero
  deriving DecidableEq

/-- How a record was given: as data, or as JSON text. -/
inductive Source
  | data
  | text
  deriving DecidableEq

/-- A fault, its place and the value that has it. -/
structure Fault where
  place : List Step
  cause : Cause
  input : Json

/-- A value, or the faults that keep it from being one. -/
abbrev Check (α : Type) := Except (List Fault) α

namespace Check

variable {α β : Type}

/-- A single fault of the value itself. -/
def fault (cause : Cause) (input : Json) : Check α := .error [⟨[], cause, input⟩]

/-- The check of a part, its faults placed below the step. -/
def under (step : Step) (check : Check α) : Check α :=
  check.mapError (·.map fun fault => { fault with place := step :: fault.place })

/-- Both checks; the faults of the first come first. -/
def ap (check : Check (α → β)) (next : Check α) : Check β :=
  match check, next with
  | .ok f, .ok a => .ok (f a)
  | .ok _, .error faults => .error faults
  | .error faults, .ok _ => .error faults
  | .error faults, .error more => .error (faults ++ more)

/-- Two checks and what to make of their values. -/
def map2 {γ : Type} (f : α → β → γ) (first : Check α) (second : Check β) : Check γ :=
  ap (first.map f) second

/-- Three checks and what to make of their values. -/
def map3 {γ δ : Type} (f : α → β → γ → δ) (first : Check α) (second : Check β) (third : Check γ) :
    Check δ :=
  ap (map2 f first second) third

/-- Four checks and what to make of their values. -/
def map4 {γ δ ε : Type} (f : α → β → γ → δ → ε) (first : Check α) (second : Check β)
    (third : Check γ) (fourth : Check δ) : Check ε :=
  ap (map3 f first second third) fourth

/-- The check of each item, from the given position on. -/
def each (check : α → Check β) : Nat → List α → Check (List β)
  | _, [] => .ok []
  | position, item :: rest =>
    map2 List.cons ((check item).under (.index position)) (each check (position + 1) rest)

@[simp] theorem under_ok (step : Step) (a : α) : under step (.ok a) = .ok a := rfl

theorem under_eq_ok_iff {step : Step} {check : Check α} {a : α} :
    under step check = .ok a ↔ check = .ok a := by
  cases check with
  | error faults => exact ⟨nofun, nofun⟩
  | ok found => exact .rfl

theorem map_eq_ok_iff {f : α → β} {check : Check α} {b : β} :
    check.map f = .ok b ↔ ∃ a, check = .ok a ∧ f a = b := by
  cases check <;> simp [Except.map]

theorem map2_eq_ok_iff {γ : Type} {f : α → β → γ} {first : Check α} {second : Check β} {c : γ} :
    map2 f first second = .ok c ↔ ∃ a b, first = .ok a ∧ second = .ok b ∧ f a b = c := by
  cases first <;> cases second <;> simp [map2, ap, Except.map]

theorem map3_eq_ok_iff {γ δ : Type} {f : α → β → γ → δ} {first : Check α} {second : Check β}
    {third : Check γ} {d : δ} : map3 f first second third = .ok d ↔
      ∃ a b c, first = .ok a ∧ second = .ok b ∧ third = .ok c ∧ f a b c = d := by
  cases first <;> cases second <;> cases third <;> simp [map3, map2, ap, Except.map]

theorem map4_eq_ok_iff {γ δ ε : Type} {f : α → β → γ → δ → ε} {first : Check α} {second : Check β}
    {third : Check γ} {fourth : Check δ} {e : ε} : map4 f first second third fourth = .ok e ↔
      ∃ a b c d, first = .ok a ∧ second = .ok b ∧ third = .ok c ∧ fourth = .ok d ∧
        f a b c d = e := by
  cases first <;> cases second <;> cases third <;> cases fourth <;>
    simp [map4, map3, map2, ap, Except.map]

@[simp] theorem each_nil (check : α → Check β) (position : Nat) :
    each check position [] = .ok [] := rfl

theorem each_cons_eq_ok_iff {check : α → Check β} {position : Nat} {item : α} {rest : List α}
    {found : List β} : each check position (item :: rest) = .ok found ↔
      ∃ b bs, check item = .ok b ∧ each check (position + 1) rest = .ok bs ∧ found = b :: bs := by
  rw [each, map2_eq_ok_iff]
  constructor
  · rintro ⟨b, bs, hHead, hRest, rfl⟩
    exact ⟨b, bs, under_eq_ok_iff.1 hHead, hRest, rfl⟩
  · rintro ⟨b, bs, hItem, hRest, rfl⟩
    exact ⟨b, bs, under_eq_ok_iff.2 hItem, hRest, rfl⟩

end Check

/-- The refusal of a whole record: what it should have been, how it was given and all its faults. -/
structure Rejection where
  model : String
  source : Source
  faults : List Fault

end ReportPress
