import RanSlicing.Radio.Quantity
import RanSlicing.Radio.Direction

/-!
# Modulation

How a reported channel quality selects a modulation and coding scheme, and how a scheme selects a
transport block size index (TS 36.213, tables 7.1.7.1-1 and 8.6.1-1). Every lookup is total because
its argument carries the bound of its table.
-/

namespace RanSlicing

/-- The highest index of the modulation tables, usable with 64-QAM. -/
def Mcs.qam64Ceiling : Mcs := ⟨28, by decide⟩

/-- The highest index usable when the modulation stops at 16-QAM. -/
def Mcs.qam16Ceiling : Mcs := ⟨16, by decide⟩

/-- The scheme used at each wideband channel quality. -/
def Modulation.mcsByCqi : Vector Mcs 16 :=
  #v[⟨0, by decide⟩, ⟨0, by decide⟩, ⟨1, by decide⟩, ⟨2, by decide⟩, ⟨4, by decide⟩,
    ⟨6, by decide⟩, ⟨8, by decide⟩, ⟨11, by decide⟩, ⟨13, by decide⟩, ⟨16, by decide⟩,
    ⟨18, by decide⟩, ⟨20, by decide⟩, ⟨23, by decide⟩, ⟨25, by decide⟩, ⟨27, by decide⟩,
    ⟨28, by decide⟩]

/-- The scheme assumed in the uplink, where reports do not tell it. -/
def Estimate.defaultUlMcs : Mcs := ⟨8, by decide⟩

/-- Transport block size index by scheme. Each direction repeats an index where its modulation
changes: the downlink at 10 and 17, the uplink at 11 and 21. -/
def Modulation.itbsByMcs : PerDirection (List Nat) where
  dl := [0, 1, 2, 3, 4, 5, 6, 7, 8, 9, 9, 10, 11, 12, 13, 14, 15, 15, 16, 17, 18, 19, 20, 21, 22,
    23, 24, 25, 26]
  ul := [0, 1, 2, 3, 4, 5, 6, 7, 8, 9, 10, 10, 11, 12, 13, 14, 15, 16, 17, 18, 19, 19, 20, 21, 22,
    23, 24, 25, 26]

/-- The scheme used at a channel quality. -/
def Mcs.ofCqi (cqi : Cqi) : Mcs :=
  Modulation.mcsByCqi.get ⟨cqi.val, Nat.lt_succ_of_le cqi.le_max⟩

/-- The transport block size index of a scheme in a direction. -/
def Mcs.itbs (mcs : Mcs) (d : Direction) : Nat := ((Modulation.itbsByMcs.get d)[mcs.val]?).getD 0

/-- The highest scheme that a policy may carry in a direction: the uplink stops at 16-QAM. -/
def Mcs.ceiling : Direction → Mcs
  | .dl => Mcs.qam64Ceiling
  | .ul => Mcs.qam16Ceiling

end RanSlicing
