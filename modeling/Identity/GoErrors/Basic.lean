/-! Early returns: what a block that returned a value has passed. -/

namespace Except
variable {ε α β : Type} {rest : Except ε β}

/-- A refusal that was not made. -/
theorem ok_of_unless [Decidable c] {err : ε}
    (hok : (if c then throw err else rest) = .ok value) : ¬ c ∧ rest = .ok value := by
  split at hok
  · cases hok
  · rename_i hnot
    exact ⟨hnot, hok⟩

theorem ok_of_bind {next : α → Except ε β} (hok : (first >>= next) = .ok value) :
    ∃ found, first = .ok found ∧ next found = .ok value := by
  cases first with
  | error err => cases hok
  | ok found => exact ⟨found, rfl, hok⟩

/-- The same refusal, for whether the block returned a value at all. -/
theorem isOk_unless [Decidable c] : (if c then throw err else rest).isOk = true ↔ ¬ c ∧ rest.isOk = true := by
  by_cases hc : c
  · rw [if_pos hc]
    exact ⟨fun hthrown => absurd hthrown Bool.false_ne_true, fun hpassed => absurd hc hpassed.1⟩
  · rw [if_neg hc]
    exact ⟨fun hok => ⟨hc, hok⟩, And.right⟩

theorem isOk_bind_unit {next : Unit → Except ε β} :
    (first >>= next).isOk = true ↔ first = .ok () ∧ (next ()).isOk = true := by
  cases first with
  | error err => exact ⟨fun hok => absurd hok Bool.false_ne_true, fun hok => absurd hok.1 (by simp)⟩
  | ok found => exact ⟨fun hok => ⟨rfl, hok⟩, And.right⟩

end Except
