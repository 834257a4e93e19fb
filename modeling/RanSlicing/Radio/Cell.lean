import RanSlicing.Radio.Modulation

/-!
# Cells and users

What one reading of the network says about a cell: its capacity and modulation ceiling in each
direction, and the users attached to it in the order of the report. A reading is built afresh in
every cycle and never changed.
-/

namespace RanSlicing

/-- Controller-side identity of a base station. -/
abbrev BsId := UInt64

/-- Buffers of one data channel of a user. -/
structure Channel where
  /-- logical channel id -/
  lcId : UInt8
  /-- signalled uplink buffer -/
  ulBsr : BsrIndex
  /-- bytes waiting for the downlink -/
  dlQueueBytes : Nat
  deriving DecidableEq, Repr

/-- One attached user. -/
structure User where
  /-- position of the cell in the report -/
  enbId : Nat
  /-- position of the user in its cell -/
  ueId : Nat
  /-- radio identity -/
  rnti : UInt16
  /-- downlink channel quality -/
  dlCqi : Cqi
  /-- power headroom -/
  phr : Int
  /-- data channels; the two signalling channels are left out -/
  channels : List Channel
  deriving DecidableEq, Repr

/-- One cell. -/
structure Cell where
  /-- position of the cell in the report -/
  enbId : Nat
  bsId : BsId
  /-- frame number of the reading -/
  sfn : UInt32
  /-- resource blocks -/
  capacity : PerDirection Nat
  /-- highest scheme that the hardware can use -/
  ceiling : PerDirection Mcs
  deriving DecidableEq, Repr

namespace Cell

/-- The ceilings of a cell that has or has not enabled 64-QAM; it never concerns the uplink. -/
def ceilingOf (enable64Qam : Bool) : PerDirection Mcs where
  dl := if enable64Qam then Mcs.qam64Ceiling else Mcs.qam16Ceiling
  ul := Mcs.qam16Ceiling

end Cell

/-- A cell together with its users. -/
structure CellStats where
  cell : Cell
  users : List User
  deriving DecidableEq, Repr

namespace CellStats

/-- The lowest downlink channel quality among the users. -/
def minCqi (s : CellStats) : Option Cqi := (s.users.map User.dlCqi).min?

end CellStats

/-- How good the link of a cell is, judged by its weakest user. -/
inductive LinkQuality
  | low
  | medium
  | high
  deriving DecidableEq, Repr

namespace LinkQuality

/-- The class of a channel quality: above 10 high, above 6 medium, otherwise low. -/
def ofCqi (cqi : Cqi) : LinkQuality :=
  if cqi.val > 10 then high else if cqi.val > 6 then medium else low

/-- The name of a class. -/
def label : LinkQuality → String
  | low => "low"
  | medium => "medium"
  | high => "high"

end LinkQuality

end RanSlicing
