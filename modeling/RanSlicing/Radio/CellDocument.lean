import RanSlicing.Document.Source
import RanSlicing.Radio.Cell

/-!
# Cells as documents

The written form of a cell with its users, in which every field has to be there.
-/

namespace RanSlicing

section

variable {ν α : Type} [Source ν α]

open Source (record? u8? u16? u32? u64? i32? listOf? bounded? below?)

/-- A channel in a document. -/
def Channel.read? (v : ν) : Option Channel := do
  let fs ← record? ["lc_id", "ul_bsr", "dl_tx_queue_bytes"] v
  let lcId ← fs.required "lc_id" u8?
  let ulBsr ← fs.required "ul_bsr" (bounded? .bsrIndex)
  let queue ← fs.required "dl_tx_queue_bytes" (below? UInt32.size)
  return ⟨lcId, ulBsr, queue⟩

/-- A user in a document. -/
def User.read? (v : ν) : Option User := do
  let fs ← record? ["enb_id", "ue_id", "rnti", "dl_cqi", "phr", "channels"] v
  let enbId ← fs.required "enb_id" (below? UInt64.size)
  let ueId ← fs.required "ue_id" (below? UInt64.size)
  let rnti ← fs.required "rnti" u16?
  let cqi ← fs.required "dl_cqi" (bounded? .cqi)
  let phr ← fs.required "phr" i32?
  let channels ← fs.required "channels" (listOf? Channel.read?)
  return ⟨enbId, ueId, rnti, cqi, phr.toInt, channels⟩

/-- A cell in a document. -/
def Cell.read? (v : ν) : Option Cell := do
  let fs ← record? ["enb_id", "bs_id", "sfn", "dl_rb", "ul_rb", "dl_max_mcs", "ul_max_mcs"] v
  let enbId ← fs.required "enb_id" (below? UInt64.size)
  let bsId ← fs.required "bs_id" u64?
  let sfn ← fs.required "sfn" u32?
  let dlRb ← fs.required "dl_rb" (below? UInt32.size)
  let ulRb ← fs.required "ul_rb" (below? UInt32.size)
  let dlMcs ← fs.required "dl_max_mcs" (bounded? .mcs)
  let ulMcs ← fs.required "ul_max_mcs" (bounded? .mcs)
  return ⟨enbId, bsId, sfn, ⟨dlRb, ulRb⟩, ⟨dlMcs, ulMcs⟩⟩

/-- A cell with its users in a document. -/
def CellStats.read? (v : ν) : Option CellStats := do
  let fs ← record? ["cell", "users"] v
  let cell ← fs.required "cell" Cell.read?
  let users ← fs.required "users" (listOf? User.read?)
  return ⟨cell, users⟩

end

variable {α : Type}

/-- A channel, every field written out. -/
def Channel.toTree (c : Channel) : Tree α :=
  .map [("lc_id", .nat c.lcId.toNat), ("ul_bsr", .nat c.ulBsr.val),
    ("dl_tx_queue_bytes", .nat c.dlQueueBytes)]

/-- A user, every field written out. -/
def User.toTree (u : User) : Tree α :=
  .map [("enb_id", .nat u.enbId), ("ue_id", .nat u.ueId), ("rnti", .nat u.rnti.toNat),
    ("dl_cqi", .nat u.dlCqi.val), ("phr", .int u.phr),
    ("channels", .list (u.channels.map Channel.toTree))]

/-- A cell, every field written out; the capacities and ceilings by direction. -/
def Cell.toTree (c : Cell) : Tree α :=
  .map [("enb_id", .nat c.enbId), ("bs_id", .nat c.bsId.toNat), ("sfn", .nat c.sfn.toNat),
    ("dl_rb", .nat c.capacity.dl), ("ul_rb", .nat c.capacity.ul),
    ("dl_max_mcs", .nat c.ceiling.dl.val), ("ul_max_mcs", .nat c.ceiling.ul.val)]

/-- A cell with its users, every field written out. -/
def CellStats.toTree (s : CellStats) : Tree α :=
  .map [("cell", s.cell.toTree), ("users", .list (s.users.map User.toTree))]

end RanSlicing
