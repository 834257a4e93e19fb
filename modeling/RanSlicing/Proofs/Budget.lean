import RanSlicing.Estimate

/-!
# The budget of a cell

The estimator hands resource blocks out greedily: channel by channel, user by user, each out of what
those before it have left. So whatever the queues are, no direction hands out more than the cell has.
The statement climbs the three loops of the estimator: one channel (`Estimate.grant_le`), the channels
of a user (`Estimate.grants_le`), the users of a cell (`Estimate.demand_users_le`).
-/

namespace RanSlicing.Estimate

/-- Every step lies within its budget. -/
theorem le_of_mem_steps {budget k : Nat} (h : k ∈ steps budget) : k ≤ 2 * (budget / 2) := by
  rw [steps, List.mem_range'] at h
  obtain ⟨i, hi, rfl⟩ := h
  omega

/-- A channel is granted no more than the budget. -/
theorem grant_le (itbs required budget : Nat) : grant itbs required budget ≤ budget := by
  simp only [grant]
  cases hf : (steps budget).find? (fun k => required ≤ TransportBlock.bytes itbs k) with
  | none =>
    rw [Option.getD_none]
    omega
  | some k =>
    have hk := le_of_mem_steps (List.mem_of_find?_eq_some hf)
    rw [Option.getD_some]
    omega

/-- The channels of a user together are granted no more than the budget. -/
theorem grants_le (itbs budget : Nat) (required : List Nat) : grants itbs budget required ≤ budget := by
  induction required generalizing budget with
  | nil => exact Nat.zero_le _
  | cons r rest ih =>
    have hfirst := grant_le itbs r budget
    have hrest := ih (budget - grant itbs r budget)
    rw [grants]
    omega

/-- The users of a cell together are granted no more than the budget. -/
theorem demand_users_le (ulMcs : Mcs) (us : List User) (budget : PerDirection Nat) (d : Direction) :
    total ((users ulMcs budget us).map (fun u => (u.link.get d).rb)) ≤ budget.get d := by
  induction us generalizing budget with
  | nil => exact Nat.zero_le _
  | cons u rest ih =>
    have hfirst : (link ulMcs u d (budget.get d)).rb ≤ budget.get d := grants_le _ _ _
    have hrest := ih (PerDirection.ofFn
      (fun d => budget.get d - (link ulMcs u d (budget.get d)).rb))
    rw [PerDirection.get_ofFn] at hrest
    simp only [users, List.map_cons, total, PerDirection.get_ofFn]
    omega

/-- No budget goes beyond the table of transport blocks. -/
theorem budget_le (c : Cell) (d : Direction) : (budget c).get d ≤ TransportBlock.maxRb := by
  rw [budget, PerDirection.get_map]
  exact Nat.min_le_right _ _

/-- A direction hands out no more resource blocks than the cell has. -/
theorem demand_cell_le (ulMcs : Mcs) (s : CellStats) (d : Direction) :
    (cell ulMcs s).demand d ≤ s.cell.capacity.get d := by
  have h := demand_users_le ulMcs s.users (budget s.cell) d
  rw [budget, PerDirection.get_map] at h
  exact Nat.le_trans h (Nat.min_le_left _ _)

end RanSlicing.Estimate
