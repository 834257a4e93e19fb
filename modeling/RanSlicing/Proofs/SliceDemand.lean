import RanSlicing.Allocation
import RanSlicing.Proofs.Budget
import RanSlicing.Proofs.Totals

/-!
# The demand of slices

With at least one slice every user belongs to exactly one of the slices that a count covers. So the
demands of the slices add up to the demand of the cell (`Allocation.total_demand`), and with the budget
of the estimator they fit into it (`Allocation.total_demand_le`).
-/

namespace RanSlicing

/-! ## Slices of users -/

/-- With at least one slice a user belongs to one that the count covers. -/
theorem SliceId.exists_forUser {n : SliceCount} (hn : 0 < n.val) (position : Nat) :
    ∃ s ∈ n.slices, forUser position n = some s := by
  rw [forUser, dif_neg (Nat.ne_of_gt hn)]
  refine ⟨_, ?_, rfl⟩
  rw [SliceCount.mem_slices]
  exact Nat.mod_lt position hn

/-- The slice of a user is one that the count covers. -/
theorem SliceId.val_lt_of_forUser {n : SliceCount} {position : Nat} {s : SliceId}
    (h : forUser position n = some s) : s.val < n.val := by
  rw [forUser] at h
  split at h
  · cases h
  · obtain rfl := Option.some.inj h
    exact Nat.mod_lt _ (by omega)

/-- Users are dealt to the slices in turn. -/
theorem SliceId.forUser_eq_some_iff {n : SliceCount} (hn : 0 < n.val) {position : Nat} {s : SliceId} :
    forUser position n = some s ↔ position % n.val = s.val := by
  rw [forUser, dif_neg (Nat.ne_of_gt hn), Option.some.injEq, Bounded.ext_iff]

namespace Allocation

/-- A user counts in its own slice and nowhere else. -/
theorem demand_cons (enbId : Nat) (bsId : BsId) (u : UserEstimate) (us : List UserEstimate) (n : SliceCount)
    (s : SliceId) (d : Direction) :
    demand ⟨enbId, bsId, u :: us⟩ n s d =
      (if SliceId.forUser u.ueId n = some s then (u.link.get d).rb else 0) + demand ⟨enbId, bsId, us⟩ n s d := by
  rw [demand, List.filter_cons]
  by_cases h : SliceId.forUser u.ueId n = some s
  · simp [h, demand, total]
  · simp [h, demand]

/-- No slice has more demand than the cell. -/
theorem demand_le (e : CellEstimate) (n : SliceCount) (s : SliceId) (d : Direction) :
    demand e n s d ≤ e.demand d := by
  rw [demand, CellEstimate.demand, total_eq_sum, total_eq_sum]
  exact (List.filter_sublist.map _).sum_le_sum fun _ _ => Nat.zero_le _

/-- The demands of the slices do not depend on the order of the users. -/
theorem demand_perm {e e' : CellEstimate} (h : e'.users.Perm e.users) (n : SliceCount) :
    demand e' n = demand e n := by
  funext s d
  rw [demand, demand, total_eq_sum, total_eq_sum]
  exact ((h.filter _).map _).sum_eq

section

variable {α : Type} [Share α] {c : Cell} {e : CellEstimate} {n : SliceCount} {caps : McsCaps}

/-- An allocation is for slices that the count covers. -/
theorem slice_mem_of_mem_slices {x : SliceAllocation α} (hx : x ∈ (cell c e n caps).slices) :
    x.slice ∈ n.slices := by
  rw [← map_slice_cell (α := α) c e n caps]
  exact List.mem_map_of_mem hx

/-- The demand that an allocation shows for a slice is that of its users. -/
theorem demand_of_mem_slices {x : SliceAllocation α} (hx : x ∈ (cell c e n caps).slices) (d : Direction) :
    x.demand.get d = demand e n x.slice d := by
  obtain ⟨s, -, rfl⟩ := List.mem_map.mp hx
  exact PerDirection.get_ofFn _ d

end

/-- The demands of the slices add up to the demand of the cell. -/
theorem total_demand {n : SliceCount} (hn : 0 < n.val) (e : CellEstimate) (d : Direction) :
    total (n.slices.map (fun s => demand e n s d)) = e.demand d := by
  obtain ⟨enbId, bsId, us⟩ := e
  induction us with
  | nil => exact total_map_zero _
  | cons u us ih =>
    obtain ⟨s, hs, hu⟩ := SliceId.exists_forUser hn u.ueId
    simp only [demand_cons, hu, Option.some.injEq, total_map_add, total_map_ite n.nodup_slices hs, ih]
    rfl

/-- The demands of the slices fit into the cell. -/
theorem total_demand_le {n : SliceCount} (hn : 0 < n.val) (ulMcs : Mcs) (stats : CellStats)
    (d : Direction) :
    total (n.slices.map (fun s => demand (Estimate.cell ulMcs stats) n s d)) ≤
      stats.cell.capacity.get d := by
  rw [total_demand hn]
  exact Estimate.demand_cell_le ulMcs stats d

end Allocation

end RanSlicing
