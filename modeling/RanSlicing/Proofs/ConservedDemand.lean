import RanSlicing.Proofs.CheckedArithmetic

/-!
# Conserved demand

The allocator goes through the users of an estimate, adds the blocks of each to the slot of its slice, and makes
the shares of what has come together there. In the end every block stands in one slot, that of the slice which
its user is dealt to by its id (`CellAllocation.AccountsFor`). The ids need not be different, nor in order: users
with one id are added to one slot. So the order in which the users come cannot be told from the allocation, and
the sums that the allocator has in 32 bits come out alike as long as each of them fits
(`Allocation.accountsFor_cell`).
-/

namespace RanSlicing

variable {α : Type}

/-- What an allocation over `n` slices makes of the blocks of an estimate. -/
structure CellAllocation.AccountsFor (a : CellAllocation α) (e : CellEstimate) (n : SliceCount) : Prop where
  /-- the slices from 0 on, without a gap -/
  slices : a.slices.map (fun x => x.slice.val) = List.range n.val
  /-- a slice has the blocks of the users that are dealt to it in turn -/
  demand : ∀ x ∈ a.slices, ∀ d, x.demand.get d =
    ((e.users.filter fun u => u.ueId % n.val = x.slice.val).map fun u => (u.link.get d).rb).sum
  /-- no block is lost, and none counts twice -/
  total : ∀ d, (a.slices.map fun x => x.demand.get d).sum = e.demand d

namespace Allocation

/-- The demand of a slice, by the ids of the users. -/
theorem demand_eq_sum {n : SliceCount} (hn : 0 < n.val) (e : CellEstimate) (s : SliceId) (d : Direction) :
    demand e n s d = ((e.users.filter fun u => u.ueId % n.val = s.val).map fun u => (u.link.get d).rb).sum := by
  simp only [demand, total_eq_sum, SliceId.forUser_eq_some_iff hn]

variable [Share α]

/-- The demands that an allocation shows, slice by slice. -/
theorem map_demand_cell (c : Cell) (e : CellEstimate) (n : SliceCount) (caps : McsCaps) :
    (cell c e n caps : CellAllocation α).slices.map SliceAllocation.demand =
      n.slices.map fun s => PerDirection.ofFn (demand e n s) := by
  simp only [cell, List.map_map, Function.comp_def]

/-- An allocation is told by the demands of its slices. -/
theorem cell_of_demand (c : Cell) {e e' : CellEstimate} {n : SliceCount} (h : demand e' n = demand e n)
    (caps : McsCaps) : (cell c e' n caps : CellAllocation α) = cell c e n caps := by
  have hshare : (share c e' n : SliceId → Direction → α) = share c e n := by
    funext s d
    rw [share, share, demandTotal, demandTotal, h]
  rw [cell, cell, hshare, h]

/-- **Conserved demand.** An allocation accounts for all blocks of its estimate. It stays the same when the users
come in another order; in each order the running sums reach the demands that the allocation shows, if these fit
into 32 bits, however large the demand of the cell is. -/
theorem accountsFor_cell (c : Cell) (e : CellEstimate) {n : SliceCount} (hn : 0 < n.val) (caps : McsCaps) :
    let a : CellAllocation α := cell c e n caps
    a.AccountsFor e n ∧
      ∀ us, us.Perm e.users →
        let e' := { e with users := us }
        cell c e' n caps = a ∧
          ((∀ x ∈ a.slices, ∀ d, x.demand.get d < 2 ^ 32) →
            Checked.demands n e' = .ok (a.slices.map SliceAllocation.demand)) := by
  intro a
  refine ⟨⟨?_, fun x hx d => ?_, fun d => ?_⟩, fun us hus => ?_⟩
  · rw [← SliceCount.map_val_slices, ← map_slice_cell (α := α) c e n caps, List.map_map]
    rfl
  · rw [demand_of_mem_slices hx, demand_eq_sum hn]
  · have hmap : (a.slices.map fun x => x.demand.get d) = n.slices.map fun s => demand e n s d := by
      have := congrArg (List.map fun p => p.get d) (map_demand_cell (α := α) c e n caps)
      simpa only [List.map_map, Function.comp_def, PerDirection.get_ofFn] using this
    rw [hmap, ← total_eq_sum, total_demand hn]
  · intro e'
    have hdemand : demand e' n = demand e n := demand_perm hus n
    refine ⟨cell_of_demand c hdemand caps, fun hfits => ?_⟩
    have hslots : ∀ s ∈ n.slices, ∀ d, demand e' n s d < 2 ^ 32 := by
      intro s hs d
      rw [← map_slice_cell (α := α) c e n caps] at hs
      obtain ⟨x, hx, rfl⟩ := List.mem_map.mp hs
      rw [hdemand, ← demand_of_mem_slices hx]
      exact hfits x hx d
    rw [Checked.demands_of_slices_fit n hslots, hdemand, map_demand_cell]

/-- Three users of two slices, two of them with one id, and taken from the last to the first. What either slice
needs fits into 32 bits, and what the cell needs does not. -/
theorem accountsFor_repeated_ids :
    let user (id dl ul : Nat) : UserEstimate :=
      ⟨id, 70, ⟨⟨⟨28, by decide⟩, 26, dl, 0⟩, ⟨⟨8, by decide⟩, 8, ul, 0⟩⟩⟩
    let e : CellEstimate := ⟨0, 1, [user 1 3000000000 2, user 4 2000000000 0, user 1 6 8]⟩
    let e' := { e with users := e.users.reverse }
    let n : SliceCount := ⟨2, by decide⟩
    let c : Cell := ⟨0, 1, 7, ⟨100, 50⟩, Cell.ceilingOf true⟩
    let a : CellAllocation Rat := cell c e n .default
    0 < n.val ∧ e'.users.Perm e.users ∧ e.demand .dl = 5000000006 ∧ a.AccountsFor e n ∧
      cell c e' n .default = a ∧ Checked.demands n e' = .ok [⟨2000000000, 0⟩, ⟨3000000006, 10⟩] := by
  intro user e e' n c a
  have hn : 0 < n.val := by decide
  obtain ⟨haccounts, horders⟩ := accountsFor_cell (α := Rat) c e hn .default
  have hperm : e'.users.Perm e.users := List.reverse_perm _
  obtain ⟨hsame, hsums⟩ := horders _ hperm
  have hdemands : a.slices.map SliceAllocation.demand = [⟨2000000000, 0⟩, ⟨3000000006, 10⟩] := by
    rw [map_demand_cell]
    decide
  have hfits : ∀ x ∈ a.slices, ∀ d, x.demand.get d < 2 ^ 32 := by
    intro x hx d
    have hmem := List.mem_map_of_mem (f := SliceAllocation.demand) hx
    rw [hdemands, List.mem_pair] at hmem
    obtain hx | hx := hmem <;> cases d <;> simp [hx, PerDirection.get]
  exact ⟨hn, hperm, by decide, haccounts, hsame, hdemands ▸ hsums hfits⟩

end Allocation

end RanSlicing
