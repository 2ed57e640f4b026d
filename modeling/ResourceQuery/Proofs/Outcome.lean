/-!
Steps that can fail: a run of them succeeds when each step does.
-/
namespace ResourceQuery.Outcome

variable {ε α β : Type}

@[simp] theorem ok_bind (value : α) (next : α → Except ε β) : (Except.ok value >>= next) = next value := rfl

@[simp] theorem error_bind (fault : ε) (next : α → Except ε β) : (Except.error fault >>= next) = .error fault := rfl

@[simp] theorem pure_eq (value : α) : (pure value : Except ε α) = .ok value := rfl

@[simp] theorem map_ok (f : α → β) (value : α) : (Except.ok value : Except ε α).map f = .ok (f value) := rfl

@[simp] theorem map_error (f : α → β) (fault : ε) : (Except.error fault : Except ε α).map f = .error fault := rfl

theorem bind_eq_ok_iff {first : Except ε α} {next : α → Except ε β} {result : β} :
    (first >>= next) = .ok result ↔ ∃ middle, first = .ok middle ∧ next middle = .ok result := by
  cases first with
  | error fault => simp
  | ok middle => simp

theorem map_eq_ok_iff {f : α → β} {first : Except ε α} {result : β} :
    first.map f = .ok result ↔ ∃ middle, first = .ok middle ∧ f middle = result := by
  cases first with
  | error fault => simp
  | ok middle => simp

/-- A test of the result of a step that succeeds. -/
theorem exists_of_any {first : Except ε α} {test : α → Bool} (passed : first.toOption.any test = true) :
    ∃ value, first = .ok value ∧ test value = true := by
  cases first with
  | error fault => cases passed
  | ok value => exact ⟨value, rfl, passed⟩

end ResourceQuery.Outcome
