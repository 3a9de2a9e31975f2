/-!
# Outcomes

A computation that may fail gives an answer exactly when each of its parts does.
-/

namespace Stratalog

variable {ε α β : Type}

/-- A composed computation answers when its first part answers and its second does then. -/
theorem bind_eq_ok {first : Except ε α} {next : α → Except ε β} {answer : β} :
    (first >>= next) = .ok answer ↔ ∃ a, first = .ok a ∧ next a = .ok answer := by
  cases first with
  | error fault => simp [bind, Except.bind]
  | ok a => simp [bind, Except.bind]

/-- A computation after a check answers when the check passes and it does. -/
theorem check_bind_eq_ok {check : Except ε Unit} {next : Except ε β} {answer : β} :
    (check >>= fun _ => next) = .ok answer ↔ check = .ok () ∧ next = .ok answer := by
  rw [bind_eq_ok]
  exact ⟨fun ⟨(), h⟩ => h, fun h => ⟨(), h⟩⟩

/-- A mapped computation answers when the computation does. -/
theorem map_eq_ok {outcome : Except ε α} {f : α → β} {answer : β} :
    outcome.map f = .ok answer ↔ ∃ a, outcome = .ok a ∧ f a = answer := by
  cases outcome <;> simp [Except.map]

/-- A computation whose errors are rephrased answers when it does. -/
theorem mapError_eq_ok {ε' : Type} {outcome : Except ε α} {f : ε → ε'} {answer : α} :
    outcome.mapError f = .ok answer ↔ outcome = .ok answer := by
  cases outcome with
  | ok a => constructor <;> rintro ⟨⟩ <;> rfl
  | error e => constructor <;> rintro ⟨⟩

/-- A computation taken for what it may answer answers when it does. -/
theorem toOption_eq_some_iff {outcome : Except ε α} {answer : α} :
    outcome.toOption = some answer ↔ outcome = .ok answer := by
  cases outcome <;> simp [Except.toOption]

/-- A computation answers when its outcome is an answer. -/
theorem isOk_iff {outcome : Except ε α} : outcome.isOk = true ↔ ∃ a, outcome = .ok a := by
  cases outcome <;> simp [Except.isOk, Except.toBool]

/-- A composed computation answers when both parts do. -/
theorem isOk_bind_iff {first : Except ε α} {next : α → Except ε β} :
    (first >>= next).isOk = true ↔ ∃ a, first = .ok a ∧ (next a).isOk = true := by
  cases first <;> simp [bind, Except.bind, Except.isOk, Except.toBool]

/-- Mapping changes nothing about whether a computation answers. -/
@[simp] theorem isOk_map {outcome : Except ε α} {f : α → β} :
    (outcome.map f).isOk = outcome.isOk := by
  cases outcome <;> rfl

/-- An answer is one. -/
@[simp] theorem isOk_pure {a : α} : (pure a : Except ε α).isOk = true := rfl

end Stratalog
