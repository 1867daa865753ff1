import PublicSite.Failure

/-!
# Steps that succeeded

What a chain of steps that may fail came to, when it did not fail.
-/

namespace PublicSite

variable {ε δ α β : Type}

theorem bind_eq_ok {first : Except ε α} {next : α → Except ε β} {result : β}
    (succeeds : first >>= next = .ok result) :
    ∃ value, first = .ok value ∧ next value = .ok result := by
  cases first with
  | error failure => exact nomatch succeeds
  | ok value => exact ⟨value, rfl, succeeds⟩

theorem exists_eq_ok_of_isOk {step : Except ε α} (succeeds : step.isOk = true) :
    ∃ value, step = .ok value := by
  cases step with
  | error failure => exact nomatch succeeds
  | ok value => exact ⟨value, rfl⟩

theorem mapError_eq_ok {step : Except ε α} {change : ε → δ} {result : α}
    (succeeds : step.mapError change = .ok result) : step = .ok result := by
  cases step with
  | error failure => exact nomatch succeeds
  | ok value =>
      obtain rfl := Except.ok.inj succeeds
      rfl

theorem map_eq_ok {step : Except ε α} {change : α → β} {result : β}
    (succeeds : step.map change = .ok result) :
    ∃ value, step = .ok value ∧ change value = result := by
  cases step with
  | error failure => exact nomatch succeeds
  | ok value => exact ⟨value, rfl, Except.ok.inj succeeds⟩

/-- A step that may fail succeeds on all items of a list when it does on each. -/
theorem mapM_eq_some_iff {step : α → Option β} {items : List α} {results : List β} :
    items.mapM step = some results ↔ items.map step = results.map some := by
  induction items generalizing results with
  | nil => cases results <;> simp
  | cons first rest ih =>
      cases results with
      | nil => simp [List.mapM_cons, Option.bind_eq_some_iff]
      | cons result others => simp [Option.bind_eq_some_iff, ← ih]

end PublicSite
