import RanSlicing.Radio.BufferStatus
import RanSlicing.Radio.Cell
import RanSlicing.Radio.Modulation
import RanSlicing.Radio.TransportBlock

/-!
# Resource block estimates

How many resource blocks each user of a cell needs to empty its buffers in one millisecond. Blocks
are handed out two at a time, channel by channel and user by user: a channel gets the fewest blocks
whose transport block covers its buffer, as far as the budget of the cell still reaches. What one
channel takes is gone for all channels after it, so a direction never hands out more than the cell
has.
-/

namespace RanSlicing

/-- The estimate for one user in one direction. -/
structure LinkEstimate where
  mcs : Mcs
  itbs : Nat
  /-- resource blocks over all data channels -/
  rb : Nat
  /-- transport block size at that number of resource blocks -/
  tbsBits : Nat
  deriving DecidableEq, Repr

/-- Expected throughput of a link. -/
def LinkEstimate.mbps (e : LinkEstimate) : Float := TransportBlock.mbps e.tbsBits

/-- The estimate for one user. -/
structure UserEstimate where
  ueId : Nat
  rnti : UInt16
  link : PerDirection LinkEstimate
  deriving DecidableEq, Repr

/-- The estimates of a cell, in the order of its users. -/
structure CellEstimate where
  enbId : Nat
  bsId : BsId
  users : List UserEstimate
  deriving DecidableEq, Repr

/-- Resource blocks of all users in a direction. -/
def CellEstimate.demand (e : CellEstimate) (d : Direction) : Nat :=
  total (e.users.map (fun u => (u.link.get d).rb))

/-- The bytes that a channel has to send in a direction. -/
def Channel.required (c : Channel) : Direction → Nat
  | .dl => c.dlQueueBytes
  | .ul => c.ulBsr.bytes

namespace Estimate

/-- The budgets that a channel can be granted out of `budget`: the positive even numbers up to
it. -/
def steps (budget : Nat) : List Nat := List.range' 2 (budget / 2) 2

/-- Resource blocks for one channel: the first step that covers the buffer, or the last one when
none does. A budget without a step grants nothing. -/
def grant (itbs required budget : Nat) : Nat :=
  ((steps budget).find? (fun k => required ≤ TransportBlock.bytes itbs k)).getD (2 * (budget / 2))

/-- Resource blocks for the buffers of a user's channels, one channel after the other. -/
def grants (itbs : Nat) (budget : Nat) : List Nat → Nat
  | [] => 0
  | required :: rest =>
    let rb := grant itbs required budget
    rb + grants itbs (budget - rb) rest

/-- The scheme of a user: reported in the downlink, assumed in the uplink. -/
def linkMcs (ulMcs : Mcs) (u : User) : Direction → Mcs
  | .dl => Mcs.ofCqi u.dlCqi
  | .ul => ulMcs

/-- The estimate for one user in one direction, out of a budget. -/
def link (ulMcs : Mcs) (u : User) (d : Direction) (budget : Nat) : LinkEstimate :=
  let mcs := linkMcs ulMcs u d
  let itbs := mcs.itbs d
  let rb := grants itbs budget (u.channels.map (fun c => c.required d))
  ⟨mcs, itbs, rb, TransportBlock.bits itbs rb⟩

/-- The estimates for the users of a cell, out of a budget in each direction. -/
def users (ulMcs : Mcs) (budget : PerDirection Nat) : List User → List UserEstimate
  | [] => []
  | u :: rest =>
    let links := PerDirection.ofFn (fun d => link ulMcs u d (budget.get d))
    ⟨u.ueId, u.rnti, links⟩
      :: users ulMcs (PerDirection.ofFn (fun d => budget.get d - (links.get d).rb)) rest

/-- What a cell can hand out: its capacity as far as transport blocks are defined. -/
def budget (c : Cell) : PerDirection Nat := c.capacity.map (min · TransportBlock.maxRb)

/-- The estimates of a cell. -/
def cell (ulMcs : Mcs) (s : CellStats) : CellEstimate :=
  ⟨s.cell.enbId, s.cell.bsId, users ulMcs (budget s.cell) s.users⟩

end Estimate

end RanSlicing
