import Mathlib.Algebra.BigOperators.Group.List.Basic
import Mathlib.Algebra.Order.BigOperators.Group.List
import Mathlib.Algebra.Order.Field.Basic
import Mathlib.Tactic.FieldSimp
import Mathlib.Tactic.Linarith
import Mathlib.Tactic.Ring
import RanSlicing.Proofs.PolicyWrites
import RanSlicing.Proofs.SliceDemand

/-!
# The shares of a cell

Over rational numbers the shares of a cell can be accounted for exactly. What the slices are owed by
demand is at most the cell, because the estimator keeps to its budget (`sum_owed_le`). The first stage
gives each slice what it is owed, and more only to the slices it raises to the smallest share, so it
passes the whole cell by less than a tenth for each of them (`demandTotal_lt`). The second stage hands
out precisely what the first has left.

A single share never leaves the cell in either stage (`share_valid`), so no allocation is ever refused
for a share when it is written to a policy.
-/

namespace RanSlicing

-- rational numbers are calculated with as such, and not as a type of shares
attribute [-instance] Share.toZero Share.toOne Share.toAdd Share.toSub Share.toDiv Share.toLE Share.toLT

/-! ## Rational shares -/

namespace Share

@[simp] theorem ofNat_rat (n : Nat) : (ofNat n : ℚ) = n := Int.cast_natCast n

@[simp] theorem floor_rat : (floor : ℚ) = 1 / 10 := rfl

/-- Without rounding the order of summands does not matter. -/
theorem sum_rat (xs : List ℚ) : Share.sum xs = xs.sum :=
  List.sum_eq_foldl.symm

end Share

namespace Allocation

/-! ## What a slice is owed -/

/-- The part of a capacity that a demand is; nothing is owed of a cell without capacity. -/
def owed (demand capacity : Nat) : ℚ := demand / capacity

/-- A demand that is owed something, but less than the smallest share. -/
def Raised (demand capacity : Nat) : Prop :=
  0 < owed demand capacity ∧ owed demand capacity < Share.floor

instance (demand capacity : Nat) : Decidable (Raised demand capacity) :=
  inferInstanceAs (Decidable (_ ∧ _))

/-- The slices that are raised to the smallest share. -/
def raised (c : Cell) (e : CellEstimate) (n : SliceCount) (d : Direction) : List SliceId :=
  n.slices.filter (fun s => Raised (demand e n s d) (c.capacity.get d))

theorem owed_nonneg (demand capacity : Nat) : 0 ≤ owed demand capacity :=
  div_nonneg (Nat.cast_nonneg demand) (Nat.cast_nonneg capacity)

/-- The first stage gives what is owed, and the smallest share where less is owed. -/
theorem demandShare_rat (demand capacity : Nat) :
    (demandShare demand capacity : ℚ) =
      if Raised demand capacity then Share.floor else owed demand capacity := by
  simp only [demandShare]
  by_cases hc : capacity = 0
  · have howed : owed demand capacity = 0 := by rw [owed, hc, Nat.cast_zero, div_zero]
    rw [if_pos hc, if_neg fun h => (h.1.trans_eq howed).false, howed]
  · rw [if_neg hc, Share.ofNat_rat, Share.ofNat_rat]
    rfl

theorem owed_le_demandShare (demand capacity : Nat) :
    owed demand capacity ≤ demandShare demand capacity := by
  rw [demandShare_rat]
  split
  · next h => exact h.2.le
  · exact le_rfl

/-- Raising a demand adds less than the smallest share, because something was owed to it. -/
theorem demandShare_le (demand capacity : Nat) :
    (demandShare demand capacity : ℚ) ≤
      owed demand capacity + if Raised demand capacity then 1 / 10 else 0 := by
  rw [demandShare_rat]
  split
  · rw [Share.floor_rat]
    linarith [owed_nonneg demand capacity]
  · rw [add_zero]

theorem demandShare_lt {demand capacity : Nat} (h : Raised demand capacity) :
    (demandShare demand capacity : ℚ) <
      owed demand capacity + if Raised demand capacity then 1 / 10 else 0 := by
  rw [demandShare_rat, if_pos h, if_pos h, Share.floor_rat]
  linarith [h.1]

/-- What several demands are owed together is owed to their total. -/
theorem sum_owed {ι : Type} (f : ι → Nat) (xs : List ι) (capacity : Nat) :
    (xs.map fun x => owed (f x) capacity).sum = owed (total (xs.map f)) capacity := by
  induction xs with
  | nil => simp [owed, total]
  | cons x rest ih =>
    rw [List.map_cons, List.sum_cons, ih, List.map_cons, total, owed, owed, owed, Nat.cast_add, add_div]

/-- The slices together are owed at most the cell. -/
theorem sum_owed_le {n : SliceCount} (hn : 0 < n.val) (ulMcs : Mcs) (stats : CellStats)
    (d : Direction) :
    (n.slices.map fun s => owed (demand (Estimate.cell ulMcs stats) n s d)
      (stats.cell.capacity.get d)).sum ≤ 1 := by
  rw [sum_owed]
  have hle := total_demand_le hn ulMcs stats d
  exact div_le_one_of_le₀ (by exact_mod_cast hle) (Nat.cast_nonneg _)

/-! ## The first stage -/

section Stages

variable (c : Cell) (e : CellEstimate) (n : SliceCount) (d : Direction)

theorem demandTotal_rat :
    (demandTotal c e n d : ℚ) =
      (n.slices.map fun s => (demandShare (demand e n s d) (c.capacity.get d) : ℚ)).sum :=
  Share.sum_rat _

/-- A tenth for each raised slice, added up. -/
theorem sum_owed_add_raised :
    (n.slices.map fun s => owed (demand e n s d) (c.capacity.get d) +
        if Raised (demand e n s d) (c.capacity.get d) then 1 / 10 else 0).sum =
      (n.slices.map fun s => owed (demand e n s d) (c.capacity.get d)).sum +
        (raised c e n d).length / 10 := by
  rw [List.sum_map_add, List.sum_map_ite, List.map_const', List.sum_replicate, List.map_const',
    List.sum_replicate, nsmul_eq_mul, nsmul_eq_mul, mul_zero, add_zero, raised]
  ring

variable {c e n d}

theorem demandShare_nonneg (demand capacity : Nat) : (0 : ℚ) ≤ demandShare demand capacity :=
  (owed_nonneg demand capacity).trans (owed_le_demandShare demand capacity)

/-- What one slice has is at most what all have together. -/
theorem le_sum_of_mem {f : SliceId → ℚ} (hf : ∀ s, 0 ≤ f s) {s : SliceId} (hs : s ∈ n.slices) :
    f s ≤ (n.slices.map f).sum := by
  refine List.single_le_sum ?_ _ (List.mem_map_of_mem hs)
  intro x hx
  obtain ⟨s', -, rfl⟩ := List.mem_map.mp hx
  exact hf s'

/-- The part of a slice is at most that of all slices. -/
theorem demandShare_le_demandTotal {s : SliceId} (hs : s ∈ n.slices) :
    (demandShare (demand e n s d) (c.capacity.get d) : ℚ) ≤ demandTotal c e n d := by
  rw [demandTotal_rat]
  exact le_sum_of_mem (f := fun s => demandShare (demand e n s d) (c.capacity.get d))
    (fun _ => demandShare_nonneg _ _) hs

/-- A slice is given at most the cell, if the slices together are owed at most the cell. -/
theorem demandShare_le_one
    (howed : (n.slices.map fun s => owed (demand e n s d) (c.capacity.get d)).sum ≤ 1)
    {s : SliceId} (hs : s ∈ n.slices) :
    (demandShare (demand e n s d) (c.capacity.get d) : ℚ) ≤ 1 := by
  have hmem := (le_sum_of_mem (fun s => owed_nonneg (demand e n s d) (c.capacity.get d)) hs).trans howed
  rw [demandShare_rat, Share.floor_rat]
  split
  · norm_num
  · exact hmem

/-- **The overrun of the first stage.** It passes the cell only by raising slices, and by less than a
tenth for each slice that it raises. -/
theorem demandTotal_lt
    (howed : (n.slices.map fun s => owed (demand e n s d) (c.capacity.get d)).sum ≤ 1)
    (hover : (1 : ℚ) < demandTotal c e n d) :
    1 ≤ (raised c e n d).length ∧
      (demandTotal c e n d : ℚ) < 1 + (raised c e n d).length / 10 := by
  have hsum := sum_owed_add_raised c e n d
  rw [demandTotal_rat] at hover ⊢
  have hraised : 1 ≤ (raised c e n d).length := by
    by_contra hnone
    have hzero : (raised c e n d).length = 0 := by omega
    have hle := List.sum_le_sum fun s (_ : s ∈ n.slices) =>
      demandShare_le (demand e n s d) (c.capacity.get d)
    rw [hsum, hzero, Nat.cast_zero, zero_div, add_zero] at hle
    linarith
  refine ⟨hraised, ?_⟩
  obtain ⟨s, hs⟩ := List.exists_mem_of_length_pos hraised
  obtain ⟨hmem, hs⟩ := List.mem_filter.mp hs
  -- at the raised slice the bound is strict
  have hlt := List.sum_lt_sum _ _
    (fun s (_ : s ∈ n.slices) => demandShare_le (demand e n s d) (c.capacity.get d))
    ⟨s, hmem, demandShare_lt (of_decide_eq_true hs)⟩
  rw [hsum] at hlt
  linarith

/-! ## The second stage -/

theorem share_of_le {s : SliceId} (h : (1 : ℚ) ≤ demandTotal c e n d) :
    (share c e n s d : ℚ) = demandShare (demand e n s d) (c.capacity.get d) := if_pos h

theorem share_of_lt {s : SliceId} (h : (demandTotal c e n d : ℚ) < 1) :
    (share c e n s d : ℚ) = demandShare (demand e n s d) (c.capacity.get d) +
      (1 - demandTotal c e n d) / n.val := by
  rw [share, if_neg (not_le.mpr h), SliceCount.length_slices, Share.ofNat_rat]

/-- A share never leaves the cell. -/
theorem share_valid (hn : 0 < n.val)
    (howed : (n.slices.map fun s => owed (demand e n s d) (c.capacity.get d)).sum ≤ 1)
    {s : SliceId} (hs : s ∈ n.slices) : Share.Valid (share c e n s d : ℚ) := by
  have hnonneg := demandShare_nonneg (demand e n s d) (c.capacity.get d)
  rcases le_or_gt (1 : ℚ) (demandTotal c e n d) with h | h
  · rw [share_of_le h]
    exact ⟨hnonneg, demandShare_le_one howed hs⟩
  · rw [share_of_lt h]
    have hpart := demandShare_le_demandTotal (c := c) (e := e) (d := d) hs
    have hleft : 0 ≤ 1 - (demandTotal c e n d : ℚ) := by linarith
    have hone : (1 : ℚ) ≤ n.val := by exact_mod_cast hn
    have heven : (1 - (demandTotal c e n d : ℚ)) / n.val ≤ 1 - demandTotal c e n d :=
      div_le_self hleft hone
    exact ⟨add_nonneg hnonneg (div_nonneg hleft (Nat.cast_nonneg _)), by linarith⟩

theorem totalShare_rat (caps : McsCaps) :
    (cell c e n caps : CellAllocation ℚ).totalShare d =
      (n.slices.map fun s => (share c e n s d : ℚ)).sum := by
  rw [CellAllocation.totalShare, Share.sum_rat, cell, List.map_map]
  refine congrArg List.sum (List.map_congr_left fun s _ => ?_)
  exact PerDirection.get_ofFn _ _

/-- A cell that the first stage fills keeps the shares of that stage. -/
theorem totalShare_of_le (caps : McsCaps) (h : (1 : ℚ) ≤ demandTotal c e n d) :
    (cell c e n caps : CellAllocation ℚ).totalShare d = demandTotal c e n d := by
  rw [totalShare_rat, demandTotal_rat]
  exact congrArg List.sum (List.map_congr_left fun s _ => share_of_le h)

/-- A cell that the first stage does not fill is filled by the second. -/
theorem totalShare_of_lt (hn : 0 < n.val) (caps : McsCaps) (h : (demandTotal c e n d : ℚ) < 1) :
    (cell c e n caps : CellAllocation ℚ).totalShare d = 1 := by
  have hne : (n.val : ℚ) ≠ 0 := by exact_mod_cast hn.ne'
  calc (cell c e n caps : CellAllocation ℚ).totalShare d
      = (n.slices.map fun s => demandShare (demand e n s d) (c.capacity.get d) +
          (1 - demandTotal c e n d : ℚ) / n.val).sum := by
        rw [totalShare_rat]
        exact congrArg List.sum (List.map_congr_left fun s _ => share_of_lt h)
    _ = demandTotal c e n d + n.val * ((1 - demandTotal c e n d) / n.val) := by
        rw [List.sum_map_add, ← demandTotal_rat, List.map_const', List.sum_replicate, nsmul_eq_mul,
          SliceCount.length_slices]
    _ = 1 := by
        field_simp
        ring

end Stages

/-! ## The shares of an estimated cell -/

/-- Whatever the slices of an estimated cell get is part of the cell. -/
theorem valid_of_mem_slices {stats : CellStats} {ulMcs : Mcs} {n : SliceCount} {caps : McsCaps}
    {x : SliceAllocation ℚ} (hx : x ∈ (cell stats.cell (Estimate.cell ulMcs stats) n caps).slices)
    (d : Direction) : Share.Valid (x.share.get d) := by
  have hs := slice_mem_of_mem_slices hx
  have hn : 0 < n.val := Nat.zero_lt_of_lt (SliceCount.mem_slices.mp hs)
  rw [(get_of_mem_slices hx d).1]
  exact share_valid hn (sum_owed_le hn ulMcs stats d) hs

/-- A policy never refuses shares that are parts of a cell. -/
theorem applyAllocation_ne_invalidShare {a : CellAllocation ℚ}
    (hv : ∀ x ∈ a.slices, ∀ d, Share.Valid (x.share.get d)) (doc : PolicyDocument ℚ) (x : ℚ) :
    doc.applyAllocation a ≠ .error (.invalidShare x) := by
  intro h
  rcases doc.applyAllocation_cases a with ⟨d, -, herr⟩ | ⟨d, y, hy, hny, -⟩ | ⟨-, -, hok⟩
  · rw [herr] at h
    cases h
  · exact hny (hv y hy d)
  · rw [hok] at h
    cases h

/-- **The shares of an estimated cell.** Each of the slices gets a part of the cell. In a direction that
the first stage does not overfill the parts are the whole cell. Otherwise they are what the first stage
gave, which passes the cell by less than a tenth for each slice that was raised, and some slice was.
No policy refuses such shares. -/
theorem shares_cell (stats : CellStats) (ulMcs : Mcs) {n : SliceCount} (hn : 0 < n.val)
    (caps : McsCaps) :
    let e := Estimate.cell ulMcs stats
    let a : CellAllocation ℚ := cell stats.cell e n caps
    (a.slices.map SliceAllocation.slice = n.slices ∧
        ∀ x ∈ a.slices, ∀ d, Share.Valid (x.share.get d)) ∧
      (∀ d, (demandTotal stats.cell e n d : ℚ) ≤ 1 → a.totalShare d = 1) ∧
      (∀ d, (1 : ℚ) < demandTotal stats.cell e n d →
        a.totalShare d = demandTotal stats.cell e n d ∧
          1 ≤ (raised stats.cell e n d).length ∧
          (demandTotal stats.cell e n d : ℚ) < 1 + (raised stats.cell e n d).length / 10) ∧
      ∀ (doc : PolicyDocument ℚ) (x : ℚ), doc.applyAllocation a ≠ .error (.invalidShare x) := by
  intro e a
  have howed := sum_owed_le hn ulMcs stats
  have hvalid : ∀ x ∈ a.slices, ∀ d, Share.Valid (x.share.get d) := by
    intro x hx d
    have hs : x.slice ∈ n.slices := by
      rw [← map_slice_cell (α := ℚ) stats.cell e n caps]
      exact List.mem_map_of_mem hx
    rw [(get_of_mem_slices hx d).1]
    exact share_valid hn (howed d) hs
  refine ⟨⟨map_slice_cell .., hvalid⟩, ?_, ?_, applyAllocation_ne_invalidShare hvalid⟩
  · intro d htotal
    rcases htotal.lt_or_eq with hlt | heq
    · exact totalShare_of_lt hn caps hlt
    · rw [totalShare_of_le caps heq.ge, heq]
  · intro d htotal
    exact ⟨totalShare_of_le caps htotal.le, demandTotal_lt (howed d) htotal⟩

/-- A cell with one user that wants little and one that wants more than there is. -/
def crowdedCell : CellStats where
  cell := ⟨0, 1, 0, PerDirection.both 50, Cell.ceilingOf true⟩
  users := [⟨0, 0, 70, ⟨15, by decide⟩, 0, [⟨3, ⟨0, by decide⟩, 10⟩]⟩,
    ⟨0, 1, 71, ⟨15, by decide⟩, 0, [⟨3, ⟨0, by decide⟩, 100000⟩]⟩]

/-- With two slices the small demand is raised, and the crowded cell is given out one and a bit times. -/
theorem shares_crowdedCell :
    let e := Estimate.cell Estimate.defaultUlMcs crowdedCell
    let n : SliceCount := ⟨2, by decide⟩
    let a : CellAllocation ℚ := cell crowdedCell.cell e n .default
    0 < n.val ∧ a.totalShare .dl = 53 / 50 ∧ (raised crowdedCell.cell e n .dl).length = 1 ∧
      a.totalShare .ul = 1 := by
  intro e n a
  have htotal : (demandTotal crowdedCell.cell e n .dl : ℚ) = 53 / 50 := by decide +kernel
  have hshares := shares_cell crowdedCell Estimate.defaultUlMcs (n := n) (by decide) .default
  obtain ⟨-, hfill, hover, -⟩ := hshares
  refine ⟨by decide, ?_, by decide +kernel, hfill .ul (by decide +kernel)⟩
  rw [(hover .dl (by rw [htotal]; norm_num)).1, htotal]

end Allocation

end RanSlicing
