/-!
Outcomes of computations that can fail.

Owns: what the outcome of two chained stages says about each of them.
-/

namespace Keypad

section Chain

variable {Failure First Second : Type}
variable {first : Except Failure First} {next : First → Except Failure Second}

theorem ok_of_bind
    {value : Second}
    (chained : first >>= next = .ok value) :
    ∃ between, first = .ok between ∧ next between = .ok value := by
  cases first with
  | error failure => contradiction
  | ok between => exact ⟨between, rfl, chained⟩

theorem error_of_bind
    {failure : Failure}
    (chained : first >>= next = .error failure) :
    first = .error failure ∨
      ∃ between, first = .ok between ∧ next between = .error failure := by
  cases first with
  | error other =>
      obtain rfl : other = failure := Except.error.inj chained
      exact .inl rfl
  | ok between => exact .inr ⟨between, rfl, chained⟩

end Chain

/-- Outcomes can be compared by their values when their failures cannot. -/
theorem eq_ok_of_toOption
    {Failure Value : Type}
    {outcome : Except Failure Value}
    {value : Value}
    (isValue : outcome.toOption = some value) :
    outcome = .ok value := by
  cases outcome with
  | error failure => contradiction
  | ok found => exact congrArg Except.ok (Option.some.inj isValue)

end Keypad
