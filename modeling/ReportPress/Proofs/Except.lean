/-!
Results that may be errors: what it takes for a result to be made of others, and to be a value.
-/

namespace ReportPress

variable {α β ε ε' : Type}

theorem Except.map_eq_ok_iff {f : α → β} {result : Except ε α} {b : β} :
    result.map f = .ok b ↔ ∃ a, result = .ok a ∧ f a = b := by
  cases result with
  | error e => exact ⟨nofun, nofun⟩
  | ok a => simp [Except.map]

theorem Except.bind_eq_ok_iff {first : Except ε α} {next : α → Except ε β} {b : β} :
    first >>= next = .ok b ↔ ∃ a, first = .ok a ∧ next a = .ok b := by
  cases first with
  | error e => exact ⟨nofun, nofun⟩
  | ok a => simp [bind, Except.bind]

theorem Except.mapError_eq_ok_iff {f : ε → ε'} {result : Except ε α} {a : α} :
    result.mapError f = .ok a ↔ result = .ok a := by
  cases result with
  | error e => exact ⟨nofun, nofun⟩
  | ok found => exact ⟨fun h => congrArg _ (Except.ok.inj h), fun h => congrArg _ (Except.ok.inj h)⟩

theorem Except.mapError_ok_bind {f : ε → ε'} {a : α} {next : α → Except ε' β} :
    (Except.ok a).mapError f >>= next = next a := rfl

theorem Except.mapError_error_bind {f : ε → ε'} {e : ε} {next : α → Except ε' β} :
    (Except.error e).mapError f >>= next = .error (f e) := rfl

theorem Except.isOk_map {f : α → β} {result : Except ε α} :
    (result.map f).isOk = result.isOk := by
  cases result <;> rfl

theorem Except.exists_of_isOk {result : Except ε α} (h : result.isOk = true) :
    ∃ a, result = .ok a := by
  cases result with
  | error e => cases h
  | ok a => exact ⟨a, rfl⟩

/-- A result that is no error is the value that it holds, whatever would stand in for it. -/
theorem Except.eq_ok_of_isOk {result : Except ε α} (h : result.isOk = true) (standard : α) :
    result = .ok (result.toOption.getD standard) := by
  cases result with
  | error e => cases h
  | ok a => rfl

end ReportPress
