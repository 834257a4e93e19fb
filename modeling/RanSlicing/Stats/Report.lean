import RanSlicing.Radio.Cell

/-!
# Stats reports

What the controller reports about its base stations: their configuration, and the state of their
users' MAC layer, each as a list with one entry for each base station. The two lists are matched by
position. Numbers are words of the width that the controller uses.
-/

namespace RanSlicing

/-- Configuration of one carrier. -/
structure CarrierReport where
  phyCellId : UInt32
  /-- resource blocks -/
  bandwidth : PerDirection UInt32
  /-- not zero when 64-QAM is enabled -/
  enable64Qam : UInt8
  deriving DecidableEq, Repr

/-- Configuration of one base station. -/
structure EnbConfig where
  bsId : BsId
  carriers : List CarrierReport
  deriving DecidableEq, Repr

/-- Queues of one logical channel. -/
structure RlcReport where
  lcId : UInt8
  /-- bytes waiting to be sent -/
  txQueueSize : UInt32
  txQueueHolDelay : UInt32
  statusPduSize : UInt32
  deriving DecidableEq, Repr

/-- Channel state of one serving cell. -/
structure CsiReport where
  servCellIndex : UInt32
  /-- periodic wideband channel quality -/
  wideband : Option UInt8
  deriving DecidableEq, Repr

/-- Downlink channel quality of a user. -/
structure CqiReport where
  /-- frame number of the report -/
  sfn : UInt32
  csi : List CsiReport
  deriving DecidableEq, Repr

/-- MAC state of a user. -/
structure MacReport where
  /-- buffer status index of each logical channel group -/
  bsr : List UInt8
  /-- power headroom -/
  phr : Int32
  rlc : List RlcReport
  cqi : Option CqiReport
  deriving DecidableEq, Repr

/-- One user with its MAC state. -/
structure UserReport where
  rnti : UInt16
  mac : MacReport
  deriving DecidableEq, Repr

/-- The users of one base station. -/
structure EnbMac where
  bsId : BsId
  users : List UserReport
  deriving DecidableEq, Repr

/-- A report on all base stations. -/
structure StatsReport where
  configs : List EnbConfig
  macs : List EnbMac
  deriving DecidableEq, Repr

namespace MacReport

/-- Wideband channel quality of the primary serving cell. -/
def widebandCqi (m : MacReport) : Option UInt8 :=
  m.cqi.bind (fun c => c.csi.head?.bind CsiReport.wideband)

/-- Frame number of the channel quality. -/
def sfn (m : MacReport) : Option UInt32 := m.cqi.map CqiReport.sfn

end MacReport

end RanSlicing
