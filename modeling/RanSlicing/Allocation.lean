import RanSlicing.Estimate
import RanSlicing.Share

/-!
# Slice allocation

The estimates of a cell become shares of its slices, in two stages and in each direction by itself:

* every slice gets its demand over the capacity of the cell, raised to the smallest share if it is
  positive but lower;
* what is then left of the cell is split evenly over all slices, idle ones included.

A user belongs to the slice given by its position. The modulation of a slice is capped by its
configured cap and by what the hardware of the cell can do.
-/

namespace RanSlicing

/-- Configured modulation caps of every slice. -/
structure McsCaps where
  cap : SliceId → Direction → Mcs

namespace McsCaps

/-- Nothing configured: every slice may use what its direction allows. -/
def default : McsCaps := ⟨fun _ d => Mcs.ceiling d⟩

/-- Configures one cap. -/
def set (c : McsCaps) (s : SliceId) (d : Direction) (m : Mcs) : McsCaps :=
  ⟨fun s' d' => if s' = s ∧ d' = d then m else c.cap s' d'⟩

end McsCaps

/-- What one slice gets. -/
structure SliceAllocation (α : Type) where
  slice : SliceId
  share : PerDirection α
  /-- resource blocks behind the share -/
  demand : PerDirection Nat
  /-- effective modulation cap -/
  maxMcs : PerDirection Mcs

/-- What the slices of one cell get, in the order of their ids. -/
structure CellAllocation (α : Type) where
  enbId : Nat
  bsId : BsId
  numSlices : SliceCount
  slices : List (SliceAllocation α)

namespace CellAllocation

variable {α : Type} [Share α]

/-- The shares of all slices in a direction. -/
def totalShare (a : CellAllocation α) (d : Direction) : α :=
  Share.sum (a.slices.map (fun s => s.share.get d))

end CellAllocation

namespace Allocation

/-- Resource blocks of the users of a slice. -/
def demand (e : CellEstimate) (n : SliceCount) (s : SliceId) (d : Direction) : Nat :=
  total ((e.users.filter (fun u => SliceId.forUser u.ueId n = some s)).map
    (fun u => (u.link.get d).rb))

variable {α : Type} [Share α]

/-- The share of a demand in a capacity, raised to the smallest share if it is lower. A cell
without capacity has no shares to give by demand. -/
def demandShare (demand capacity : Nat) : α :=
  if capacity = 0 then 0
  else
    let share : α := Share.ofNat demand / Share.ofNat capacity
    if 0 < share ∧ share < Share.floor then Share.floor else share

/-- The shares given by demand to all slices together. -/
def demandTotal (c : Cell) (e : CellEstimate) (n : SliceCount) (d : Direction) : α :=
  Share.sum (n.slices.map (fun s => demandShare (demand e n s d) (c.capacity.get d)))

/-- The share of a slice: by demand, and an even part of what is left. -/
def share (c : Cell) (e : CellEstimate) (n : SliceCount) (s : SliceId) (d : Direction) : α :=
  let byDemand : α := demandShare (demand e n s d) (c.capacity.get d)
  let total : α := demandTotal c e n d
  if 1 ≤ total then byDemand else byDemand + (1 - total) / Share.ofNat n.slices.length

/-- The allocation of a cell over `n` slices. -/
def cell (c : Cell) (e : CellEstimate) (n : SliceCount) (caps : McsCaps) : CellAllocation α where
  enbId := c.enbId
  bsId := c.bsId
  numSlices := n
  slices := n.slices.map (fun s =>
    { slice := s
      share := PerDirection.ofFn (share c e n s)
      demand := PerDirection.ofFn (demand e n s)
      maxMcs := PerDirection.ofFn (fun d => min (caps.cap s d) (c.ceiling.get d)) })

/-- Each slice that the count covers gets something, once. -/
@[simp] theorem map_slice_cell (c : Cell) (e : CellEstimate) (n : SliceCount) (caps : McsCaps) :
    (cell (α := α) c e n caps).slices.map SliceAllocation.slice = n.slices := by
  simp only [cell, List.map_map, Function.comp_def, List.map_id']

/-- What a slice gets depends on the slice and the direction only. -/
theorem get_of_mem_slices {c : Cell} {e : CellEstimate} {n : SliceCount} {caps : McsCaps}
    {x : SliceAllocation α} (hx : x ∈ (cell c e n caps).slices) (d : Direction) :
    x.share.get d = share c e n x.slice d ∧
      x.maxMcs.get d = min (caps.cap x.slice d) (c.ceiling.get d) := by
  obtain ⟨s, -, rfl⟩ := List.mem_map.mp hx
  exact ⟨PerDirection.get_ofFn _ d, PerDirection.get_ofFn _ d⟩

end Allocation

end RanSlicing
