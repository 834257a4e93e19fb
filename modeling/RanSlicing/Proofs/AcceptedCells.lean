import RanSlicing.Proofs.Snapshot

/-!
# Which cells are accepted

A report is a list of configurations beside a list of MAC stats, of another length perhaps, with values that are
there or not four levels deep. What it takes for a cell to be accepted can still be said in one place
(`EnbConfig.Acceptable`): its stats are those of its base station, its first carrier is not too wide, and each of
its users has a channel quality and buffer status indices that exist. Nothing else in a report can keep a cell
out, and no other cell can.

An accepted cell has all its users in their order, each with its data channels, and shows its first carrier
(`CellStats.Keeps`).
-/

namespace RanSlicing

/-! ## What is asked of a cell -/

/-- What is asked of the MAC state of a user. -/
structure MacReport.Sound (m : MacReport) : Prop where
  /-- the first report on the channel has a wideband quality, and one that exists -/
  quality : ∃ q csi rest raw, m.cqi = some q ∧ q.csi = csi :: rest ∧ csi.wideband = some raw ∧ raw.toNat ≤ 15
  /-- the buffer status of the first four groups exists; more of it is not looked at -/
  buffers : ∀ raw ∈ m.bsr.take 4, raw.toNat ≤ 63

/-- What a user of the cell `enb` keeps of its report. -/
structure User.Keeps (enb : Nat) (position : Nat) (r : UserReport) (u : User) : Prop where
  enbId : u.enbId = enb
  ueId : u.ueId = position
  rnti : u.rnti = r.rnti
  quality : r.mac.widebandCqi.map UInt8.toNat = some u.dlCqi.val
  phr : u.phr = r.mac.phr.toInt
  /-- one channel for each entry but the first two -/
  channels : u.channels.map (fun c => (c.lcId, c.dlQueueBytes)) =
    (r.mac.rlc.drop 2).map fun x => (x.lcId, x.txQueueSize.toNat)

/-- What an accepted cell keeps of its configuration and its MAC stats. -/
structure CellStats.Keeps (enb : Nat) (config : EnbConfig) (mac : Option EnbMac) (c : CellStats) : Prop where
  enbId : c.cell.enbId = enb
  bsId : c.cell.bsId = config.bsId
  carrier : ∃ carrier rest, config.carriers = carrier :: rest ∧
    (∀ d, c.cell.capacity.get d = (carrier.bandwidth.get d).toNat) ∧
    c.cell.ceiling = Cell.ceilingOf (carrier.enable64Qam ≠ 0)
  /-- the frame number of the first user -/
  sfn : ∀ r rest, EnbMac.reported mac = r :: rest → r.mac.sfn = some c.cell.sfn
  sfnWithoutUsers : EnbMac.reported mac = [] → c.cell.sfn = 0
  /-- every user is there, at its position -/
  users : List.Forall₂ (fun (r, position) u => User.Keeps enb position r u) (EnbMac.reported mac).zipIdx c.users

namespace Snapshot

/-! ## Users -/

variable {enb ue : Nat} {m : MacReport} {r : UserReport} {config : EnbConfig} {mac : Option EnbMac}

/-- A cell without a carrier is left out and does not take the next one with it, which nobody is attached to. -/
example :
    let s := ofReport ⟨[⟨7, []⟩, ⟨8, [⟨0, ⟨25, 25⟩, 1⟩]⟩], []⟩
    s.cells = [⟨⟨1, 8, 0, ⟨25, 25⟩, ⟨Mcs.qam64Ceiling, Mcs.qam16Ceiling⟩⟩, []⟩] ∧
      s.rejected = [⟨0, 7, .noCarrier 0⟩] := by
  decide

end Snapshot

end RanSlicing
