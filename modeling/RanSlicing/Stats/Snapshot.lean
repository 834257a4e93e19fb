import RanSlicing.Radio.BufferStatus
import RanSlicing.Radio.TransportBlock
import RanSlicing.Stats.Report

/-!
# Snapshots

A snapshot is what the program works with in one cycle: the cells of a report that make sense. Each
cell is checked on its own. A cell with a fault is left out with the reason, and the others stay.

Users keep their position in the report as their id. Of a user's channels the first two carry
signalling and are dropped; the first data channel speaks for the buffers of the groups 1 to 3
together, and every further one for none.
-/

namespace RanSlicing

/-- What is wrong with the stats of a cell. -/
inductive StatsFault
  | bsIdMismatch (enb : Nat) (config mac : BsId)
  | noCqi (ue enb : Nat)
  | cqiOutOfRange (ue enb : Nat) (value : UInt8)
  | bsrOutOfRange (ue enb : Nat) (value : UInt8)
  | noCarrier (enb : Nat)
  | tooWide (enb : Nat) (d : Direction) (rb : UInt32)
  deriving DecidableEq, Repr

/-- The wording of a fault. -/
def StatsFault.reason : StatsFault → String
  | bsIdMismatch enb config mac =>
    "eNB " ++ toString enb ++ " config is bs_id " ++ toString config.toNat
      ++ " but its MAC stats are bs_id " ++ toString mac.toNat
  | noCqi ue enb => "UE " ++ toString ue ++ " of eNB " ++ toString enb ++ " has no wideband CQI"
  | cqiOutOfRange ue enb value =>
    "UE " ++ toString ue ++ " of eNB " ++ toString enb ++ " reports CQI " ++ toString value.toNat
  | bsrOutOfRange ue enb value =>
    "UE " ++ toString ue ++ " of eNB " ++ toString enb ++ " reports BSR index "
      ++ toString value.toNat
  | noCarrier enb => "eNB " ++ toString enb ++ " has no cell configuration"
  | tooWide enb d rb =>
    "eNB " ++ toString enb ++ " " ++ d.label ++ " bandwidth " ++ toString rb.toNat
      ++ " RBs exceeds " ++ toString TransportBlock.maxRb

/-- A fault as an error of the whole program. -/
def StatsFault.message (f : StatsFault) : String := "Malformed stats: " ++ f.reason

/-- A cell that was left out. -/
structure RejectedCell where
  enbId : Nat
  bsId : BsId
  fault : StatsFault
  deriving DecidableEq, Repr

/-- The cells of one report. -/
structure Snapshot where
  /-- the cells that make sense, in order -/
  cells : List CellStats
  /-- the others, in order -/
  rejected : List RejectedCell
  deriving DecidableEq, Repr

namespace Snapshot

/-- Number of users of all cells. -/
def numUsers (s : Snapshot) : Nat := total (s.cells.map (fun c => c.users.length))

/-- The first data channel. -/
def firstDataChannel : Nat := 2

/-- Number of logical channel groups with a buffer status. -/
def groups : Nat := 4

/-- The checked buffer status of the groups of a user. Further entries are not looked at. -/
def groupBsr (ue enb : Nat) (m : MacReport) : Except StatsFault (List BsrIndex) :=
  (m.bsr.take groups).mapM (fun raw =>
    match Bounded.ofNat .bsrIndex raw.toNat with
    | .ok i => .ok i
    | .error _ => .error (.bsrOutOfRange ue enb raw))

/-- The buffer status that the channel at a position speaks for. -/
def channelBsr (bsr : List BsrIndex) (position : Nat) : BsrIndex :=
  if position = firstDataChannel then BsrIndex.covering (total ((bsr.drop 1).map BsrIndex.bytes))
  else default

/-- The data channels of a user. -/
def channels (bsr : List BsrIndex) (rlc : List RlcReport) : List Channel :=
  (rlc.zipIdx.drop firstDataChannel).map (fun (r, position) =>
    ⟨r.lcId, channelBsr bsr position, r.txQueueSize.toNat⟩)

/-- The checked channel quality of a user. -/
def cqi (ue enb : Nat) (m : MacReport) : Except StatsFault Cqi :=
  match m.widebandCqi with
  | none => .error (.noCqi ue enb)
  | some raw =>
    match Bounded.ofNat .cqi raw.toNat with
    | .ok c => .ok c
    | .error _ => .error (.cqiOutOfRange ue enb raw)

/-- One user of a cell. -/
def user (enb ue : Nat) (r : UserReport) : Except StatsFault User := do
  let c ← cqi ue enb r.mac
  let bsr ← groupBsr ue enb r.mac
  return ⟨enb, ue, r.rnti, c, r.mac.phr.toInt, channels bsr r.mac.rlc⟩

/-- The direction in which a carrier is wider than transport blocks are defined, downlink first. -/
def tooWide? (c : CarrierReport) : Option Direction :=
  Direction.all.find? (fun d => TransportBlock.maxRb < (c.bandwidth.get d).toNat)

/-- The cell itself, from its first carrier. -/
def cell (enb : Nat) (config : EnbConfig) (sfn : UInt32) : Except StatsFault Cell :=
  match config.carriers with
  | [] => .error (.noCarrier enb)
  | c :: _ =>
    match tooWide? c with
    | some d => .error (.tooWide enb d (c.bandwidth.get d))
    | none => .ok ⟨enb, config.bsId, sfn, c.bandwidth.map UInt32.toNat,
        Cell.ceilingOf (c.enable64Qam ≠ 0)⟩

/-- Whether MAC stats, if there are any, are those of the configured base station. -/
def checkIdentity (enb : Nat) (config : EnbConfig) (mac : Option EnbMac) : Except StatsFault Unit :=
  match mac with
  | some m => if m.bsId = config.bsId then .ok () else .error (.bsIdMismatch enb config.bsId m.bsId)
  | none => .ok ()

/-- The cell at a position with its users, if nothing is wrong with either. A base station without
MAC stats has no users. -/
def cellStats (enb : Nat) (config : EnbConfig) (mac : Option EnbMac) :
    Except StatsFault CellStats := do
  checkIdentity enb config mac
  let reports := (mac.map EnbMac.users).getD []
  let users ← reports.zipIdx.mapM (fun (r, ue) => user enb ue r)
  let sfn := (reports.head?.bind (fun r => r.mac.sfn)).getD 0
  let c ← cell enb config sfn
  return ⟨c, users⟩

/-- The cells of a report: its configurations matched with its MAC stats by position. -/
def ofReport (r : StatsReport) : Snapshot :=
  r.configs.zipIdx.foldr (fun (config, enb) s =>
    match cellStats enb config r.macs[enb]? with
    | .ok c => { s with cells := c :: s.cells }
    | .error f => { s with rejected := ⟨enb, config.bsId, f⟩ :: s.rejected }) ⟨[], []⟩

end Snapshot

end RanSlicing
