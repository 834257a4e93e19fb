import Mathlib.Tactic.GCongr
import RanSlicing.Proofs.Directions
import RanSlicing.Proofs.SliceShares

/-!
# Fair shares

What a slice ends with is a sum of two parts (`Allocation.share_eq`). One part is what its demand is worth: the
part of the cell that it is owed, but a tenth at least. It is told by the demand of the slice alone and grows
with it. The other part is the same for all slices, and is told by what the demands of all of them are worth
together.

So slices are treated alike, and the order of their shares is that of their demands (`Allocation.fair_cell`). And
when one user gets more blocks, the worth of one slice rises, and the common part falls, by no more than that
(`Allocation.leftover_le_add`): the slice of the user cannot lose, and the others cannot win
(`Allocation.gains_withLink`). It does not matter which of the thresholds are crossed on the way.
-/

namespace RanSlicing

-- rational numbers are calculated with as such, and not as a type of shares
attribute [-instance] Share.toZero Share.toOne Share.toAdd Share.toSub Share.toDiv Share.toLE Share.toLT

namespace Allocation

/-! ## The worth of a demand -/

/-- What a demand is worth: the part of the capacity that it is, but a tenth at least. What is owed nothing is
worth nothing. -/
def worth (demand capacity : Nat) : ℚ :=
  if 0 < owed demand capacity then max (owed demand capacity) (1 / 10) else 0

/-- The first stage gives what the demand is worth. -/
theorem demandShare_eq_worth (demand capacity : Nat) :
    (demandShare demand capacity : ℚ) = worth demand capacity := by
  rw [demandShare_rat, worth, Share.floor_rat]
  by_cases howed : 0 < owed demand capacity
  · rw [if_pos howed]
    by_cases hsmall : owed demand capacity < 1 / 10
    · rw [if_pos ⟨howed, hsmall⟩, max_eq_right hsmall.le]
    · rw [if_neg fun h => hsmall h.2, max_eq_left (not_lt.mp hsmall)]
  · rw [if_neg howed, if_neg fun h => howed h.1]
    exact le_antisymm (not_lt.mp howed) (owed_nonneg demand capacity)

theorem worth_nonneg (demand capacity : Nat) : 0 ≤ worth demand capacity := by
  rw [← demandShare_eq_worth]
  exact demandShare_nonneg demand capacity

@[simp] theorem worth_zero (capacity : Nat) : worth 0 capacity = 0 := by
  simp [worth, owed]

/-- In a cell without capacity no demand is worth anything. -/
@[simp] theorem worth_of_capacity_zero (demand : Nat) : worth demand 0 = 0 := by
  simp [worth, owed]

theorem worth_mono {x y : Nat} (h : x ≤ y) (capacity : Nat) : worth x capacity ≤ worth y capacity := by
  have howed : owed x capacity ≤ owed y capacity := by
    rw [owed, owed]
    gcongr
  by_cases hx : 0 < owed x capacity
  · rw [worth, worth, if_pos hx, if_pos (hx.trans_le howed)]
    exact max_le_max_right _ howed
  · rw [worth, if_neg hx]
    exact worth_nonneg y capacity

theorem le_worth {demand capacity : Nat} (hd : 0 < demand) (hc : 0 < capacity) :
    1 / 10 ≤ worth demand capacity := by
  have howed : 0 < owed demand capacity := div_pos (Nat.cast_pos.mpr hd) (Nat.cast_pos.mpr hc)
  rw [worth, if_pos howed]
  exact le_max_right _ _

/-! ## What is left -/

/-- The part that everyone of `n` slices gets of what the worths of all of them leave of a cell. -/
def leftover (worths : ℚ) (n : SliceCount) : ℚ := max 0 (1 - worths) / n.val

theorem leftover_nonneg (worths : ℚ) (n : SliceCount) : 0 ≤ leftover worths n :=
  div_nonneg (le_max_left _ _) (Nat.cast_nonneg _)

/-- Where more is worth something, nobody gets more of what is left. -/
theorem leftover_anti {t t' : ℚ} (h : t ≤ t') (n : SliceCount) : leftover t' n ≤ leftover t n := by
  rw [leftover, leftover]
  gcongr

/-- What everyone gets of what is left falls by no more than the worths rise. -/
theorem leftover_le_add {t t' : ℚ} (h : t ≤ t') {n : SliceCount} (hn : 0 < n.val) :
    leftover t n ≤ leftover t' n + (t' - t) := by
  have hone : (1 : ℚ) ≤ n.val := by exact_mod_cast hn
  have hleft : max 0 (1 - t) ≤ max 0 (1 - t') + (t' - t) := by
    refine max_le ?_ ?_
    · linarith [le_max_left 0 (1 - t')]
    · linarith [le_max_right 0 (1 - t')]
  calc leftover t n ≤ (max 0 (1 - t') + (t' - t)) / n.val := by
        rw [leftover]
        gcongr
    _ = leftover t' n + (t' - t) / n.val := add_div _ _ _
    _ ≤ leftover t' n + (t' - t) := by
        gcongr
        exact div_le_self (by linarith) hone

/-! ## What a slice ends with -/

section

variable (c : Cell) (e : CellEstimate) (n : SliceCount) (d : Direction)

theorem demandTotal_eq_sum_worth :
    (demandTotal c e n d : ℚ) = (n.slices.map fun s => worth (demand e n s d) (c.capacity.get d)).sum := by
  simp only [demandTotal_rat, demandShare_eq_worth]

/-- A slice ends with what its demand is worth, and with its part of what is left. -/
theorem share_eq (s : SliceId) :
    (share c e n s d : ℚ) = worth (demand e n s d) (c.capacity.get d) + leftover (demandTotal c e n d) n := by
  rw [← demandShare_eq_worth, leftover]
  rcases le_or_gt (1 : ℚ) (demandTotal c e n d) with h | h
  · rw [share_of_le h, max_eq_left (by linarith), zero_div, add_zero]
  · rw [share_of_lt h, max_eq_right (by linarith)]

end

end Allocation

/-! ## Slices are treated alike -/

/-- What the first stage gives all slices of an allocation together. -/
def CellAllocation.firstStage (a : CellAllocation ℚ) (capacity : Nat) (d : Direction) : ℚ :=
  (a.slices.map fun x => (Allocation.demandShare (x.demand.get d) capacity : ℚ)).sum

/-- How the shares of the slices go with their demands, in a direction in which the cell has `capacity` blocks. -/
structure CellAllocation.Fair (a : CellAllocation ℚ) (capacity : Nat) (d : Direction) : Prop where
  /-- every slice gets what the first stage gives its demand, and the same part of what is left as everyone -/
  even : ∀ x ∈ a.slices, x.share.get d =
    Allocation.demandShare (x.demand.get d) capacity + max 0 (1 - a.firstStage capacity d) / a.numSlices.val
  /-- a slice that needs something gets a tenth of the cell at least -/
  floor : capacity ≠ 0 → ∀ x ∈ a.slices, 0 < x.demand.get d → 1 / 10 ≤ x.share.get d
  /-- a slice that needs no more than another gets no more -/
  ordered : ∀ x ∈ a.slices, ∀ y ∈ a.slices, x.demand.get d ≤ y.demand.get d → x.share.get d ≤ y.share.get d
  equal : ∀ x ∈ a.slices, ∀ y ∈ a.slices, x.demand.get d = y.demand.get d → x.share.get d = y.share.get d
  /-- a slice that needs nothing gets its part of what is left -/
  idle : ∀ x ∈ a.slices, x.demand.get d = 0 →
    x.share.get d = max 0 (1 - a.firstStage capacity d) / a.numSlices.val
  /-- without capacity the slices share evenly, whatever they need -/
  noCapacity : capacity = 0 → ∀ x ∈ a.slices, x.share.get d = 1 / a.numSlices.val

namespace Allocation

variable (c : Cell) (e : CellEstimate) (n : SliceCount) (caps : McsCaps) (d : Direction)

/-- The demands that an allocation shows tell what the first stage gave out. -/
theorem firstStage_cell :
    (cell c e n caps : CellAllocation ℚ).firstStage (c.capacity.get d) d = demandTotal c e n d := by
  rw [demandTotal_rat, CellAllocation.firstStage, cell, List.map_map]
  refine congrArg List.sum (List.map_congr_left fun s _ => ?_)
  rw [Function.comp_apply, PerDirection.get_ofFn]

/-- **Fair shares.** The allocation of a cell has a share for each of its slices, and treats them alike: each gets
what the first stage gives its demand, and an even part of what the first stage leaves. -/
theorem fair_cell :
    let a : CellAllocation ℚ := cell c e n caps
    a.slices.map SliceAllocation.slice = n.slices ∧ a.numSlices = n ∧
      a.firstStage (c.capacity.get d) d = demandTotal c e n d ∧ a.Fair (c.capacity.get d) d := by
  intro a
  have heven : ∀ x ∈ a.slices, x.share.get d =
      worth (x.demand.get d) (c.capacity.get d) + leftover (a.firstStage (c.capacity.get d) d) n := by
    intro x hx
    rw [(get_of_mem_slices hx d).1, demand_of_mem_slices hx, share_eq, firstStage_cell]
  refine ⟨map_slice_cell c e n caps, rfl, firstStage_cell c e n caps d, ?_, ?_, ?_, ?_, ?_, ?_⟩
  · intro x hx
    rw [heven x hx, demandShare_eq_worth]
    rfl
  · intro hc x hx hdemand
    rw [heven x hx]
    linarith [le_worth hdemand (Nat.pos_of_ne_zero hc), leftover_nonneg (a.firstStage (c.capacity.get d) d) n]
  · intro x hx y hy hle
    rw [heven x hx, heven y hy]
    linarith [worth_mono hle (c.capacity.get d)]
  · intro x hx y hy heq
    rw [heven x hx, heven y hy, heq]
  · intro x hx hidle
    rw [heven x hx, hidle, worth_zero, zero_add]
    rfl
  · intro hc x hx
    have hfirst : a.firstStage (c.capacity.get d) d = 0 := by
      simp [CellAllocation.firstStage, demandShare_eq_worth, hc]
    rw [heven x hx, hfirst, hc, worth_of_capacity_zero, zero_add, leftover, sub_zero, max_eq_right zero_le_one]
    rfl

/-- Two slices and one user, of which the uplink is raised to a tenth. -/
example :
    let e : CellEstimate := ⟨0, 1, [⟨0, 70, ⟨⟨⟨10, by decide⟩, 9, 38, 0⟩, ⟨⟨10, by decide⟩, 9, 2, 0⟩⟩⟩]⟩
    let a : CellAllocation ℚ := cell ⟨0, 1, 7, ⟨100, 100⟩, Cell.ceilingOf true⟩ e ⟨2, by decide⟩ .default
    a.slices.map SliceAllocation.share = [⟨69 / 100, 55 / 100⟩, ⟨31 / 100, 45 / 100⟩] := by
  decide +kernel

end Allocation

/-! ## A user that gets more -/

/-- The user with another estimate in one direction. -/
def UserEstimate.withLink (u : UserEstimate) (d : Direction) (l : LinkEstimate) : UserEstimate :=
  { u with link := u.link.set d l }

/-- The estimates of a cell with another user at a position. -/
def CellEstimate.withUser (e : CellEstimate) (i : Nat) (u : UserEstimate) : CellEstimate :=
  { e with users := e.users.set i u }

/-- From one allocation to another, the slice `s` gains in a direction: it gets no less there, the other slices get
no more, and nothing changes in the other direction. -/
structure CellAllocation.Gains (s : Option SliceId) (d : Direction) (a a' : CellAllocation ℚ) : Prop where
  slices : a'.slices.map SliceAllocation.slice = a.slices.map SliceAllocation.slice
  own : ∀ x ∈ a.slices, ∀ y ∈ a'.slices, y.slice = x.slice → s = some x.slice → x.share.get d ≤ y.share.get d
  others : ∀ x ∈ a.slices, ∀ y ∈ a'.slices, y.slice = x.slice → s ≠ some x.slice → y.share.get d ≤ x.share.get d
  /-- shares, demands and caps alike -/
  apart : ∀ d', d' ≠ d → a'.links d' = a.links d'

namespace Allocation

/-- Writing something that cannot be told apart from what stood there. -/
theorem map_set_of_eq {β γ : Type} {f : β → γ} {xs : List β} {i : Nat} {x y : β} (hx : xs[i]? = some x)
    (h : f y = f x) : (xs.set i y).map f = xs.map f := by
  obtain ⟨hi, rfl⟩ := List.getElem?_eq_some_iff.mp hx
  rw [List.map_set, h, ← List.map_set, List.set_getElem_self]

/-- The blocks that a user adds to a slice. -/
def added (n : SliceCount) (s : SliceId) (d : Direction) (u : UserEstimate) : Nat :=
  if SliceId.forUser u.ueId n = some s then (u.link.get d).rb else 0

theorem added_withLink (n : SliceCount) (s : SliceId) (d : Direction) (u : UserEstimate) (l : LinkEstimate) :
    added n s d (u.withLink d l) = if SliceId.forUser u.ueId n = some s then l.rb else 0 := by
  rw [added, UserEstimate.withLink, PerDirection.get_set_self]

/-- The demand of a slice, user by user. -/
theorem demand_eq_total_added (e : CellEstimate) (n : SliceCount) (s : SliceId) (d : Direction) :
    demand e n s d = total (e.users.map (added n s d)) := by
  obtain ⟨enbId, bsId, us⟩ := e
  induction us with
  | nil => rfl
  | cons u rest ih => rw [demand_cons, ih, List.map_cons, total, added]

section

variable {e : CellEstimate} {i : Nat} {u : UserEstimate} (hu : e.users[i]? = some u)

include hu

/-- A slice that the new user adds at least as much to has at least the demand that it had. -/
theorem demand_le_withUser {n : SliceCount} {s : SliceId} {d : Direction} {u' : UserEstimate}
    (h : added n s d u ≤ added n s d u') : demand e n s d ≤ demand (e.withUser i u') n s d := by
  rw [demand_eq_total_added, demand_eq_total_added, CellEstimate.withUser, List.map_set]
  refine total_le_total_set ?_ h
  rw [List.getElem?_map, hu, Option.map_some]

/-- A slice that the new user adds the same to has the demand that it had. -/
theorem demand_withUser_of_added {n : SliceCount} {s : SliceId} {d : Direction} {u' : UserEstimate}
    (h : added n s d u' = added n s d u) : demand (e.withUser i u') n s d = demand e n s d := by
  rw [demand_eq_total_added, demand_eq_total_added, CellEstimate.withUser, map_set_of_eq hu h]

/-- The estimates in the other direction stay as they are. -/
theorem links_withLink {d d' : Direction} (hd : d' ≠ d) (l : LinkEstimate) :
    (e.withUser i (u.withLink d l)).links d' = e.links d' := by
  refine map_set_of_eq hu ?_
  rw [UserEstimate.withLink, PerDirection.get_set_of_ne _ hd]

end

/-- A sum over the slices in which one of them counts differently. -/
theorem sum_slices_change {n : SliceCount} {s : SliceId} (hs : s ∈ n.slices) {f f' : SliceId → ℚ}
    (h : ∀ t, t ≠ s → f' t = f t) : (n.slices.map f').sum = (n.slices.map f).sum + (f' s - f s) := by
  have hrest : (n.slices.erase s).map f' = (n.slices.erase s).map f := by
    refine List.map_congr_left fun t ht => h t ?_
    exact (n.nodup_slices.mem_erase_iff.mp ht).1
  rw [← List.sum_map_erase f hs, ← List.sum_map_erase f' hs, hrest]
  ring

/-- When one slice needs more and the others need what they did, it gets no less, and they get no more. -/
theorem share_of_more (c : Cell) {e e' : CellEstimate} {n : SliceCount} {d : Direction} {s : SliceId}
    (hs : s ∈ n.slices) (hown : demand e n s d ≤ demand e' n s d)
    (hothers : ∀ t, t ≠ s → demand e' n t d = demand e n t d) :
    (share c e n s d : ℚ) ≤ share c e' n s d ∧ ∀ t, t ≠ s → (share c e' n t d : ℚ) ≤ share c e n t d := by
  have hn : 0 < n.val := Nat.zero_lt_of_lt (SliceCount.mem_slices.mp hs)
  have hworth := worth_mono hown (c.capacity.get d)
  -- all together are worth more by what this slice is worth more
  have htotal : (demandTotal c e' n d : ℚ) = demandTotal c e n d +
      (worth (demand e' n s d) (c.capacity.get d) - worth (demand e n s d) (c.capacity.get d)) := by
    rw [demandTotal_eq_sum_worth, demandTotal_eq_sum_worth]
    exact sum_slices_change hs fun t ht => by rw [hothers t ht]
  have hle : (demandTotal c e n d : ℚ) ≤ demandTotal c e' n d := by linarith
  constructor
  · rw [share_eq, share_eq]
    linarith [leftover_le_add hle hn]
  · intro t ht
    rw [share_eq, share_eq, hothers t ht]
    linarith [leftover_anti hle n]

/-- The slice of a user that gets more needs more, and no other slice does. -/
theorem share_withLink (c : Cell) {e : CellEstimate} {i : Nat} {u : UserEstimate} (hu : e.users[i]? = some u)
    {d : Direction} {l : LinkEstimate} (hrb : (u.link.get d).rb ≤ l.rb) {n : SliceCount} {s : SliceId}
    (hs : SliceId.forUser u.ueId n = some s) :
    (share c e n s d : ℚ) ≤ share c (e.withUser i (u.withLink d l)) n s d ∧
      ∀ t, t ≠ s → (share c (e.withUser i (u.withLink d l)) n t d : ℚ) ≤ share c e n t d := by
  have hcovered : s ∈ n.slices := SliceCount.mem_slices.mpr (SliceId.val_lt_of_forUser hs)
  refine share_of_more c hcovered (demand_le_withUser hu ?_) fun t ht => demand_withUser_of_added hu ?_
  · rw [added_withLink, added, if_pos hs, if_pos hs]
    exact hrb
  · have hne : SliceId.forUser u.ueId n ≠ some t := fun h => ht (Option.some.inj (h.symm.trans hs))
    rw [added_withLink, added, if_neg hne, if_neg hne]

/-- **More for one user.** When a user gets more blocks in a direction, its slice gains there, whatever the other
users need and whatever the cell has. -/
theorem gains_withLink (c : Cell) {e : CellEstimate} {i : Nat} {u : UserEstimate} (hu : e.users[i]? = some u)
    {d : Direction} {l : LinkEstimate} (hrb : (u.link.get d).rb ≤ l.rb) (n : SliceCount) (caps : McsCaps) :
    let a : CellAllocation ℚ := cell c e n caps
    let a' : CellAllocation ℚ := cell c (e.withUser i (u.withLink d l)) n caps
    a.Gains (SliceId.forUser u.ueId n) d a' := by
  intro a a'
  refine ⟨?_, ?_, ?_, ?_⟩
  · rw [map_slice_cell, map_slice_cell]
  · intro x hx y hy hslice hs
    rw [(get_of_mem_slices hx d).1, (get_of_mem_slices hy d).1, hslice]
    exact (share_withLink c hu hrb hs).1
  · intro x hx y hy hslice hs
    have hn : 0 < n.val := Nat.zero_lt_of_lt (SliceCount.mem_slices.mp (slice_mem_of_mem_slices hx))
    obtain ⟨s, -, huser⟩ := SliceId.exists_forUser hn u.ueId
    rw [(get_of_mem_slices hx d).1, (get_of_mem_slices hy d).1, hslice]
    exact (share_withLink c hu hrb huser).2 _ fun heq => hs (heq ▸ huser)
  · intro d' hd
    have hcell : (CellStats.mk c []).AgreeIn d' (CellStats.mk c []) := ⟨rfl, rfl, .nil⟩
    exact links_cell_congr hcell (links_withLink hu hd l) (fun _ => rfl) n

/-- An idle user in a cell of 100 blocks starts to need four. Its slice is raised to a tenth, and with this the
slices fill the cell, which had eight blocks left before. -/
theorem gains_of_idle_user :
    let link (rb : Nat) : LinkEstimate := ⟨⟨10, by decide⟩, 9, rb, 0⟩
    let user (id dl : Nat) : UserEstimate := ⟨id, 70, ⟨link dl, link 6⟩⟩
    let e : CellEstimate := ⟨0, 1, [user 1 60, user 0 0, user 2 32]⟩
    let e' := e.withUser 1 ((user 0 0).withLink .dl (link 4))
    let n : SliceCount := ⟨3, by decide⟩
    let c : Cell := ⟨0, 1, 7, ⟨100, 50⟩, Cell.ceilingOf true⟩
    let a : CellAllocation ℚ := cell c e n .default
    let a' : CellAllocation ℚ := cell c e' n .default
    e.users[1]? = some (user 0 0) ∧ ((user 0 0).link.get .dl).rb ≤ (link 4).rb ∧
      a.slices.map (fun x => x.share.dl) = [2 / 75, 47 / 75, 26 / 75] ∧
      a'.slices.map (fun x => x.share.dl) = [1 / 10, 3 / 5, 8 / 25] ∧
      a.Gains (some ⟨0, by decide⟩) .dl a' := by
  intro link user e e' n c a a'
  have hu : e.users[1]? = some (user 0 0) := rfl
  have hrb : ((user 0 0).link.get .dl).rb ≤ (link 4).rb := by decide
  exact ⟨hu, hrb, by decide +kernel, by decide +kernel, gains_withLink c hu hrb n .default⟩

end Allocation

end RanSlicing
