import AgentLedger.Ledger.Rules
/-!
# Sums and differences of amounts

Each operation on amounts in unbounded numbers. A difference is the true one
where nothing is taken below zero, a capped sum is the true one where it fits.
-/

namespace AgentLedger

namespace Amount

theorem le_def {a b : Amount} : a ≤ b ↔ a.units ≤ b.units := Iff.rfl

@[simp] theorem zero_units : zero.units = 0 := rfl

@[simp] theorem largest_units : largest.units = limit - 1 := rfl

theorem add?_eq_some {a b c : Amount} : a.add? b = some c ↔ c.units = a.units + b.units := ofNat?_eq_some

theorem addCapped_units (a b : Amount) : (a.addCapped b).units = min (a.units + b.units) (limit - 1) := by
  unfold addCapped add? ofNat?
  split
  · simp only [Option.getD_some]; omega
  · simp only [Option.getD_none, largest_units]; omega

/-- In which order amounts are paid in does not matter, at the cap neither. -/
theorem addCapped_right_comm (a b c : Amount) : (a.addCapped b).addCapped c = (a.addCapped c).addCapped b := by
  apply ext
  simp only [addCapped_units]
  omega

/-- A capped sum is the true one exactly where that one fits. -/
theorem addCapped_exact_iff (a b : Amount) :
    (a.addCapped b).units = a.units + b.units ↔ a.units + b.units < limit := by
  have := limit_pos
  rw [addCapped_units]; omega

theorem sub_units {a b : Amount} (h : b ≤ a) : (a.sub b).units = a.units - b.units := by
  have ha := a.units_lt
  have hb := b.units_lt
  rw [le_def] at h
  show (a.units + (limit - b.units)) % limit = a.units - b.units
  rw [show a.units + (limit - b.units) = a.units - b.units + limit by omega, Nat.add_mod_right]
  exact Nat.mod_eq_of_lt (by omega)

end Amount

end AgentLedger
