import RanSlicing.Document.Source
import RanSlicing.Stats.Report

/-!
# Stats reports as documents

Decoding of reports from any source, and their encoding with every field. Decoding ignores unknown
entries, and almost every field has a value of its own when it is missing: an empty list, zero, or
nothing. The bandwidths of a carrier, the ids of users and channels, a user's state and the value
inside a wideband report have to be there.
-/

namespace RanSlicing

variable {ν α : Type} [Source ν α]

open Source (record? u8? u16? u32? u64? i32? listOf? optional?)

/-! ## Decoding -/

/-- A carrier in a document. -/
def CarrierReport.read? (v : ν) : Option CarrierReport := do
  let fs ← record? ["phyCellId", "dlBandwidth", "ulBandwidth", "enable64QAM"] v
  let phyCellId ← fs.withDefault "phyCellId" 0 u32?
  let dl ← fs.required "dlBandwidth" u32?
  let ul ← fs.required "ulBandwidth" u32?
  let enable64Qam ← fs.withDefault "enable64QAM" 0 u8?
  return ⟨phyCellId, ⟨dl, ul⟩, enable64Qam⟩

/-- The carriers of a base station in a document. -/
def EnbConfig.readCarriers? (v : ν) : Option (List CarrierReport) := do
  let fs ← record? ["cellConfig"] v
  fs.withDefault "cellConfig" [] (listOf? CarrierReport.read?)

/-- The configuration of a base station in a document. -/
def EnbConfig.read? (v : ν) : Option EnbConfig := do
  let fs ← record? ["bs_id", "eNB"] v
  let bsId ← fs.withDefault "bs_id" 0 u64?
  let carriers ← fs.withDefault "eNB" [] readCarriers?
  return ⟨bsId, carriers⟩

/-- The queues of a channel in a document. -/
def RlcReport.read? (v : ν) : Option RlcReport := do
  let fs ← record? ["lcId", "txQueueSize", "txQueueHolDelay", "statusPduSize"] v
  let lcId ← fs.required "lcId" u8?
  let size ← fs.withDefault "txQueueSize" 0 u32?
  let delay ← fs.withDefault "txQueueHolDelay" 0 u32?
  let status ← fs.withDefault "statusPduSize" 0 u32?
  return ⟨lcId, size, delay, status⟩

/-- The value of a wideband report in a document. -/
def CsiReport.readWideband? (v : ν) : Option UInt8 := do
  let fs ← record? ["wbCqi"] v
  fs.required "wbCqi" u8?

/-- The state of a serving cell in a document. -/
def CsiReport.read? (v : ν) : Option CsiReport := do
  let fs ← record? ["servCellIndex", "p10csi"] v
  let index ← fs.withDefault "servCellIndex" 0 u32?
  let wideband ← fs.withDefault "p10csi" none (optional? readWideband?)
  return ⟨index, wideband⟩

/-- The channel quality of a user in a document. -/
def CqiReport.read? (v : ν) : Option CqiReport := do
  let fs ← record? ["sfnSn", "csiReport"] v
  let sfn ← fs.withDefault "sfnSn" 0 u32?
  let csi ← fs.withDefault "csiReport" [] (listOf? CsiReport.read?)
  return ⟨sfn, csi⟩

/-- The state of a user in a document. -/
def MacReport.read? (v : ν) : Option MacReport := do
  let fs ← record? ["bsr", "phr", "rlcReport", "dlCqiReport"] v
  let bsr ← fs.withDefault "bsr" [] (listOf? u8?)
  let phr ← fs.withDefault "phr" 0 i32?
  let rlc ← fs.withDefault "rlcReport" [] (listOf? RlcReport.read?)
  let cqi ← fs.withDefault "dlCqiReport" none (optional? CqiReport.read?)
  return ⟨bsr, phr, rlc, cqi⟩

/-- A user in a document. -/
def UserReport.read? (v : ν) : Option UserReport := do
  let fs ← record? ["rnti", "mac_stats"] v
  let rnti ← fs.required "rnti" u16?
  let mac ← fs.required "mac_stats" MacReport.read?
  return ⟨rnti, mac⟩

/-- The users of a base station in a document. -/
def EnbMac.read? (v : ν) : Option EnbMac := do
  let fs ← record? ["bs_id", "ue_mac_stats"] v
  let bsId ← fs.withDefault "bs_id" 0 u64?
  let users ← fs.withDefault "ue_mac_stats" [] (listOf? UserReport.read?)
  return ⟨bsId, users⟩

/-- A report in a document. -/
def StatsReport.read? (v : ν) : Option StatsReport := do
  let fs ← record? ["eNB_config", "mac_stats"] v
  let configs ← fs.withDefault "eNB_config" [] (listOf? EnbConfig.read?)
  let macs ← fs.withDefault "mac_stats" [] (listOf? EnbMac.read?)
  return ⟨configs, macs⟩

/-! ## Encoding -/

section

variable {α : Type}

/-- A carrier as a tree. -/
def CarrierReport.toTree (c : CarrierReport) : Tree α :=
  .map [("phyCellId", .nat c.phyCellId.toNat), ("dlBandwidth", .nat c.bandwidth.dl.toNat),
    ("ulBandwidth", .nat c.bandwidth.ul.toNat), ("enable64QAM", .nat c.enable64Qam.toNat)]

/-- The configuration of a base station as a tree. -/
def EnbConfig.toTree (c : EnbConfig) : Tree α :=
  .map [("bs_id", .nat c.bsId.toNat),
    ("eNB", .map [("cellConfig", .list (c.carriers.map CarrierReport.toTree))])]

/-- The queues of a channel as a tree. -/
def RlcReport.toTree (r : RlcReport) : Tree α :=
  .map [("lcId", .nat r.lcId.toNat), ("txQueueSize", .nat r.txQueueSize.toNat),
    ("txQueueHolDelay", .nat r.txQueueHolDelay.toNat),
    ("statusPduSize", .nat r.statusPduSize.toNat)]

/-- The state of a serving cell as a tree; a missing wideband value is null. -/
def CsiReport.toTree (c : CsiReport) : Tree α :=
  .map [("servCellIndex", .nat c.servCellIndex.toNat),
    ("p10csi", .option (fun (w : UInt8) => .map [("wbCqi", .nat w.toNat)]) c.wideband)]

/-- The channel quality of a user as a tree. -/
def CqiReport.toTree (c : CqiReport) : Tree α :=
  .map [("sfnSn", .nat c.sfn.toNat), ("csiReport", .list (c.csi.map CsiReport.toTree))]

/-- A user's state as a tree; missing channel quality is null. -/
def MacReport.toTree (m : MacReport) : Tree α :=
  .map [("bsr", .nats (m.bsr.map UInt8.toNat)), ("phr", .int m.phr.toInt),
    ("rlcReport", .list (m.rlc.map RlcReport.toTree)),
    ("dlCqiReport", .option CqiReport.toTree m.cqi)]

/-- A user as a tree. -/
def UserReport.toTree (u : UserReport) : Tree α :=
  .map [("rnti", .nat u.rnti.toNat), ("mac_stats", u.mac.toTree)]

/-- The users of a base station as a tree. -/
def EnbMac.toTree (e : EnbMac) : Tree α :=
  .map [("bs_id", .nat e.bsId.toNat), ("ue_mac_stats", .list (e.users.map UserReport.toTree))]

/-- A report with every field written out. -/
def StatsReport.toTree (r : StatsReport) : Tree α :=
  .map [("eNB_config", .list (r.configs.map EnbConfig.toTree)),
    ("mac_stats", .list (r.macs.map EnbMac.toTree))]

end

end RanSlicing
