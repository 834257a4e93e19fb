import RanSlicing.Proofs.LooseRecords
import RanSlicing.Stats.Parse

/-!
# Reports of other writers

The controller writes more into its reports than a loop needs, and it need not write what is empty or zero. For
each part of a report `Loosened` says which of its fields may be left out, and at which value; entries under
other names may stand anywhere. The reader of every part is tolerant to this: it gets the part back from whatever
may be written for it (`CarrierReport.tolerant` up to `StatsReport.tolerant`). So does the reader of a report in
JSON, however loosely the report is written (`StatsReport.parse_of_loosened`).
-/

namespace RanSlicing

variable {α : Type} [Share α]

open Source (record? below? u8? u16? u32? u64? i32? listOf? optional?)
open RanSlicing.Tree (LooseList LooseOption LooseRecord Tolerant)

/-! ## Numbers -/

theorem below?_nat {limit n : Nat} (h : n < limit) : below? limit (.nat n : Tree α) = some n := by
  have hnat : Source.nat? (.nat n : Tree α) = some n := if_pos (Int.natCast_nonneg n)
  rw [below?, hnat]
  exact Option.filter_some_pos (decide_eq_true h)

theorem tolerant_u8? : Tolerant Eq (fun n : UInt8 => (.nat n.toNat : Tree α)) u8? :=
  .leaf fun n => by rw [u8?, below?_nat n.toNat_lt, Option.map_some, UInt8.ofNat_toNat]

theorem tolerant_u16? : Tolerant Eq (fun n : UInt16 => (.nat n.toNat : Tree α)) u16? :=
  .leaf fun n => by rw [u16?, below?_nat n.toNat_lt, Option.map_some, UInt16.ofNat_toNat]

theorem tolerant_u32? : Tolerant Eq (fun n : UInt32 => (.nat n.toNat : Tree α)) u32? :=
  .leaf fun n => by rw [u32?, below?_nat n.toNat_lt, Option.map_some, UInt32.ofNat_toNat]

theorem tolerant_u64? : Tolerant Eq (fun n : UInt64 => (.nat n.toNat : Tree α)) u64? :=
  .leaf fun n => by rw [u64?, below?_nat n.toNat_lt, Option.map_some, UInt64.ofNat_toNat]

theorem tolerant_i32? : Tolerant Eq (fun n : Int32 => (.int n.toInt : Tree α)) i32? := by
  refine .leaf fun n => ?_
  have hint : Source.int? (.int n.toInt : Tree α) = some n.toInt := rfl
  have hrange : Int32.minValue.toInt ≤ n.toInt ∧ n.toInt ≤ Int32.maxValue.toInt :=
    ⟨n.minValue_le_toInt, n.toInt_le⟩
  rw [i32?, hint, Option.filter_some, if_pos (decide_eq_true hrange), Option.map_some, Int32.ofInt_toInt]

/-- A list of numbers is written as it is. -/
theorem tolerant_nats :
    Tolerant Eq (fun ns : List UInt8 => (.nats (ns.map UInt8.toNat) : Tree α)) (listOf? u8?) := by
  refine .leaf fun ns => ?_
  rw [Tree.nats, List.map_map]
  exact Tree.mapM_of_forall₂ tolerant_u8? (List.forall₂_same.mpr fun _ _ => rfl)

/-! ## Base stations -/

namespace CarrierReport

/-- What may be written for a carrier. Its bandwidths have to be there. -/
def Loosened : Tree α → Tree α → Prop :=
  LooseRecord [("phyCellId", ⟨Eq, some (.nat 0)⟩), ("dlBandwidth", ⟨Eq, none⟩), ("ulBandwidth", ⟨Eq, none⟩),
    ("enable64QAM", ⟨Eq, some (.nat 0)⟩)]

theorem tolerant : Tolerant Loosened (toTree (α := α)) read? where
  refl c := .mk (.keep rfl rfl <| .keep rfl rfl <| .keep rfl rfl <| .keep rfl rfl .nil) (.refl _)
  read_eq c u h := by
    obtain ⟨fs, hrecord, hfs⟩ := LooseRecord.exists_fields
      ["phyCellId", "dlBandwidth", "ulBandwidth", "enable64QAM"] h rfl (by simp)
    have hid : fs.withDefault "phyCellId" 0 u32? = some c.phyCellId := hfs.withDefault tolerant_u32? rfl rfl
    have hdl : fs.required "dlBandwidth" u32? = some c.bandwidth.dl := hfs.required tolerant_u32? rfl rfl
    have hul : fs.required "ulBandwidth" u32? = some c.bandwidth.ul := hfs.required tolerant_u32? rfl rfl
    have hqam : fs.withDefault "enable64QAM" 0 u8? = some c.enable64Qam := hfs.withDefault tolerant_u8? rfl rfl
    simp only [read?, hrecord, hid, hdl, hul, hqam, Option.bind_eq_bind, Option.bind_some]
    rfl

end CarrierReport

namespace EnbConfig

/-- The carriers of a base station as a tree. -/
def carriersTree (carriers : List CarrierReport) : Tree α :=
  .map [("cellConfig", .list (carriers.map CarrierReport.toTree))]

/-- What may be written for the carriers of a base station. -/
def LoosenedCarriers : Tree α → Tree α → Prop :=
  LooseRecord [("cellConfig", ⟨LooseList CarrierReport.Loosened, some (.list [])⟩)]

theorem tolerant_carriers : Tolerant LoosenedCarriers (carriersTree (α := α)) readCarriers? where
  refl cs := .mk (.keep rfl (CarrierReport.tolerant.list.refl cs) .nil) (.refl _)
  read_eq cs u h := by
    obtain ⟨fs, hrecord, hfs⟩ := LooseRecord.exists_fields ["cellConfig"] h rfl (by simp)
    have hcarriers : fs.withDefault "cellConfig" [] (listOf? CarrierReport.read?) = some cs :=
      hfs.withDefault CarrierReport.tolerant.list rfl rfl
    simp only [readCarriers?, hrecord, hcarriers, Option.bind_eq_bind, Option.bind_some]

/-- What may be written for the configuration of a base station. -/
def Loosened : Tree α → Tree α → Prop :=
  LooseRecord [("bs_id", ⟨Eq, some (.nat 0)⟩), ("eNB", ⟨LoosenedCarriers, some (carriersTree [])⟩)]

theorem tolerant : Tolerant Loosened (toTree (α := α)) read? where
  refl c := .mk (.keep rfl rfl <| .keep rfl (tolerant_carriers.refl c.carriers) .nil) (.refl _)
  read_eq c u h := by
    obtain ⟨fs, hrecord, hfs⟩ := LooseRecord.exists_fields ["bs_id", "eNB"] h rfl (by simp)
    have hid : fs.withDefault "bs_id" 0 u64? = some c.bsId := hfs.withDefault tolerant_u64? rfl rfl
    have hcarriers : fs.withDefault "eNB" [] readCarriers? = some c.carriers :=
      hfs.withDefault tolerant_carriers rfl rfl
    simp only [read?, hrecord, hid, hcarriers, Option.bind_eq_bind, Option.bind_some]
    rfl

end EnbConfig

/-! ## Users -/

namespace RlcReport

/-- What may be written for the queues of a channel. Its id has to be there. -/
def Loosened : Tree α → Tree α → Prop :=
  LooseRecord [("lcId", ⟨Eq, none⟩), ("txQueueSize", ⟨Eq, some (.nat 0)⟩),
    ("txQueueHolDelay", ⟨Eq, some (.nat 0)⟩), ("statusPduSize", ⟨Eq, some (.nat 0)⟩)]

theorem tolerant : Tolerant Loosened (toTree (α := α)) read? where
  refl r := .mk (.keep rfl rfl <| .keep rfl rfl <| .keep rfl rfl <| .keep rfl rfl .nil) (.refl _)
  read_eq r u h := by
    obtain ⟨fs, hrecord, hfs⟩ := LooseRecord.exists_fields
      ["lcId", "txQueueSize", "txQueueHolDelay", "statusPduSize"] h rfl (by simp)
    have hid : fs.required "lcId" u8? = some r.lcId := hfs.required tolerant_u8? rfl rfl
    have hsize : fs.withDefault "txQueueSize" 0 u32? = some r.txQueueSize :=
      hfs.withDefault tolerant_u32? rfl rfl
    have hdelay : fs.withDefault "txQueueHolDelay" 0 u32? = some r.txQueueHolDelay :=
      hfs.withDefault tolerant_u32? rfl rfl
    have hstatus : fs.withDefault "statusPduSize" 0 u32? = some r.statusPduSize :=
      hfs.withDefault tolerant_u32? rfl rfl
    simp only [read?, hrecord, hid, hsize, hdelay, hstatus, Option.bind_eq_bind, Option.bind_some]
    rfl

end RlcReport

namespace CsiReport

/-- A wideband report as a tree. -/
def widebandTree (cqi : UInt8) : Tree α := .map [("wbCqi", .nat cqi.toNat)]

/-- What may be written for a wideband report. Its value has to be there. -/
def LoosenedWideband : Tree α → Tree α → Prop := LooseRecord [("wbCqi", ⟨Eq, none⟩)]

theorem tolerant_wideband : Tolerant LoosenedWideband (widebandTree (α := α)) readWideband? where
  refl cqi := .mk (.keep rfl rfl .nil) (.refl _)
  read_eq cqi u h := by
    obtain ⟨fs, hrecord, hfs⟩ := LooseRecord.exists_fields ["wbCqi"] h rfl (by simp)
    have hcqi : fs.required "wbCqi" u8? = some cqi := hfs.required tolerant_u8? rfl rfl
    simp only [readWideband?, hrecord, hcqi, Option.bind_eq_bind, Option.bind_some]

/-- What may be written for the state of a serving cell. -/
def Loosened : Tree α → Tree α → Prop :=
  LooseRecord [("servCellIndex", ⟨Eq, some (.nat 0)⟩), ("p10csi", ⟨LooseOption LoosenedWideband, some .null⟩)]

theorem tolerant : Tolerant Loosened (toTree (α := α)) read? where
  refl c := .mk (.keep rfl rfl <|
    .keep rfl ((tolerant_wideband.option fun _ => ⟨_, rfl⟩).refl c.wideband) .nil) (.refl _)
  read_eq c u h := by
    obtain ⟨fs, hrecord, hfs⟩ := LooseRecord.exists_fields ["servCellIndex", "p10csi"] h rfl (by simp)
    have hindex : fs.withDefault "servCellIndex" 0 u32? = some c.servCellIndex :=
      hfs.withDefault tolerant_u32? rfl rfl
    have hwideband : fs.withDefault "p10csi" none (optional? readWideband?) = some c.wideband :=
      hfs.withDefault (tolerant_wideband.option fun _ => ⟨_, rfl⟩) rfl rfl
    simp only [read?, hrecord, hindex, hwideband, Option.bind_eq_bind, Option.bind_some]
    rfl

end CsiReport

namespace CqiReport

/-- What may be written for the channel quality of a user. -/
def Loosened : Tree α → Tree α → Prop :=
  LooseRecord [("sfnSn", ⟨Eq, some (.nat 0)⟩), ("csiReport", ⟨LooseList CsiReport.Loosened, some (.list [])⟩)]

theorem tolerant : Tolerant Loosened (toTree (α := α)) read? where
  refl c := .mk (.keep rfl rfl <| .keep rfl (CsiReport.tolerant.list.refl c.csi) .nil) (.refl _)
  read_eq c u h := by
    obtain ⟨fs, hrecord, hfs⟩ := LooseRecord.exists_fields ["sfnSn", "csiReport"] h rfl (by simp)
    have hsfn : fs.withDefault "sfnSn" 0 u32? = some c.sfn := hfs.withDefault tolerant_u32? rfl rfl
    have hcsi : fs.withDefault "csiReport" [] (listOf? CsiReport.read?) = some c.csi :=
      hfs.withDefault CsiReport.tolerant.list rfl rfl
    simp only [read?, hrecord, hsfn, hcsi, Option.bind_eq_bind, Option.bind_some]
    rfl

end CqiReport

namespace MacReport

/-- What may be written for the state of a user. -/
def Loosened : Tree α → Tree α → Prop :=
  LooseRecord [("bsr", ⟨Eq, some (.list [])⟩), ("phr", ⟨Eq, some (.int 0)⟩),
    ("rlcReport", ⟨LooseList RlcReport.Loosened, some (.list [])⟩),
    ("dlCqiReport", ⟨LooseOption CqiReport.Loosened, some .null⟩)]

theorem tolerant : Tolerant Loosened (toTree (α := α)) read? where
  refl m := .mk (.keep rfl rfl <| .keep rfl rfl <| .keep rfl (RlcReport.tolerant.list.refl m.rlc) <|
    .keep rfl ((CqiReport.tolerant.option fun _ => ⟨_, rfl⟩).refl m.cqi) .nil) (.refl _)
  read_eq m u h := by
    obtain ⟨fs, hrecord, hfs⟩ := LooseRecord.exists_fields ["bsr", "phr", "rlcReport", "dlCqiReport"] h rfl
      (by simp)
    have hbsr : fs.withDefault "bsr" [] (listOf? u8?) = some m.bsr := hfs.withDefault tolerant_nats rfl rfl
    have hphr : fs.withDefault "phr" 0 i32? = some m.phr := hfs.withDefault tolerant_i32? rfl rfl
    have hrlc : fs.withDefault "rlcReport" [] (listOf? RlcReport.read?) = some m.rlc :=
      hfs.withDefault RlcReport.tolerant.list rfl rfl
    have hcqi : fs.withDefault "dlCqiReport" none (optional? CqiReport.read?) = some m.cqi :=
      hfs.withDefault (CqiReport.tolerant.option fun _ => ⟨_, rfl⟩) rfl rfl
    simp only [read?, hrecord, hbsr, hphr, hrlc, hcqi, Option.bind_eq_bind, Option.bind_some]
    rfl

end MacReport

namespace UserReport

/-- What may be written for a user. Its id and its state have to be there. -/
def Loosened : Tree α → Tree α → Prop :=
  LooseRecord [("rnti", ⟨Eq, none⟩), ("mac_stats", ⟨MacReport.Loosened, none⟩)]

theorem tolerant : Tolerant Loosened (toTree (α := α)) read? where
  refl x := .mk (.keep rfl rfl <| .keep rfl (MacReport.tolerant.refl x.mac) .nil) (.refl _)
  read_eq x u h := by
    obtain ⟨fs, hrecord, hfs⟩ := LooseRecord.exists_fields ["rnti", "mac_stats"] h rfl (by simp)
    have hrnti : fs.required "rnti" u16? = some x.rnti := hfs.required tolerant_u16? rfl rfl
    have hmac : fs.required "mac_stats" MacReport.read? = some x.mac := hfs.required MacReport.tolerant rfl rfl
    simp only [read?, hrecord, hrnti, hmac, Option.bind_eq_bind, Option.bind_some]
    rfl

end UserReport

namespace EnbMac

/-- What may be written for the users of a base station. -/
def Loosened : Tree α → Tree α → Prop :=
  LooseRecord [("bs_id", ⟨Eq, some (.nat 0)⟩),
    ("ue_mac_stats", ⟨LooseList UserReport.Loosened, some (.list [])⟩)]

theorem tolerant : Tolerant Loosened (toTree (α := α)) read? where
  refl e := .mk (.keep rfl rfl <| .keep rfl (UserReport.tolerant.list.refl e.users) .nil) (.refl _)
  read_eq e u h := by
    obtain ⟨fs, hrecord, hfs⟩ := LooseRecord.exists_fields ["bs_id", "ue_mac_stats"] h rfl (by simp)
    have hid : fs.withDefault "bs_id" 0 u64? = some e.bsId := hfs.withDefault tolerant_u64? rfl rfl
    have husers : fs.withDefault "ue_mac_stats" [] (listOf? UserReport.read?) = some e.users :=
      hfs.withDefault UserReport.tolerant.list rfl rfl
    simp only [read?, hrecord, hid, husers, Option.bind_eq_bind, Option.bind_some]
    rfl

end EnbMac

/-! ## Reports -/

namespace StatsReport

/-- What may be written for a report. -/
def Loosened : Tree α → Tree α → Prop :=
  LooseRecord [("eNB_config", ⟨LooseList EnbConfig.Loosened, some (.list [])⟩),
    ("mac_stats", ⟨LooseList EnbMac.Loosened, some (.list [])⟩)]

theorem tolerant : Tolerant Loosened (toTree (α := α)) read? where
  refl r := .mk (.keep rfl (EnbConfig.tolerant.list.refl r.configs) <|
    .keep rfl (EnbMac.tolerant.list.refl r.macs) .nil) (.refl _)
  read_eq r u h := by
    obtain ⟨fs, hrecord, hfs⟩ := LooseRecord.exists_fields ["eNB_config", "mac_stats"] h rfl (by simp)
    have hconfigs : fs.withDefault "eNB_config" [] (listOf? EnbConfig.read?) = some r.configs :=
      hfs.withDefault EnbConfig.tolerant.list rfl rfl
    have hmacs : fs.withDefault "mac_stats" [] (listOf? EnbMac.read?) = some r.macs :=
      hfs.withDefault EnbMac.tolerant.list rfl rfl
    simp only [read?, hrecord, hconfigs, hmacs, Option.bind_eq_bind, Option.bind_some]
    rfl

/-- **Reports are decoded tolerantly.** Write a report with entries more in any of its records, under names that
none of their fields has and with any values, and with as many fields left out that have their defaults as you
like: a text that reads as the tree that you wrote is read as the report. In particular a report that is written
in full reads back. -/
theorem parse_of_loosened (r : StatsReport) {path : String} (hpath : isYaml path = false) :
    (∀ t, Loosened r.toTree t → ∀ text, Json.read? text = some t → parse path text = .ok r) ∧
      ∀ text, Json.read? text = some r.toTree → parse path text = .ok r := by
  have hloose : ∀ t, Loosened r.toTree t → ∀ text, Json.read? text = some t → parse path text = .ok r := by
    intro t ht text htext
    have hread : ofJson? text = some r := by
      rw [ofJson?, htext, Option.bind_some, tolerant.read_eq r t ht]
    rw [parse, hpath, if_neg Bool.false_ne_true, hread]
    rfl
  exact ⟨hloose, hloose r.toTree (tolerant.refl r)⟩

set_option maxRecDepth 4000 in
/-- A user of whom only the power headroom is written, behind an entry that no field has the name of. -/
theorem parse_of_loosened_sparse :
    let r : StatsReport := ⟨[], [⟨0, [⟨70, ⟨[], -3, [], none⟩⟩]⟩]⟩
    isYaml "stats.json" = false ∧ parse "stats.json"
      "\x7b\"mac_stats\":[\x7b\"v\":[],\"ue_mac_stats\":[\x7b\"mac_stats\":\x7b\"phr\":-3\x7d,\"rnti\":70\x7d]\x7d]\x7d" =
        .ok r := by
  intro r
  let m : MacReport := ⟨[], -3, [], none⟩
  have hmac : MacReport.Loosened (m.toTree : Tree Float) (.map [("phr", .int (-3))]) :=
    .mk (.remove rfl rfl <| .keep rfl rfl <| .remove rfl rfl <| .remove rfl rfl .nil) (.refl _)
  have huser : UserReport.Loosened ((⟨70, m⟩ : UserReport).toTree : Tree Float)
      (.map [("mac_stats", .map [("phr", .int (-3))]), ("rnti", .nat 70)]) :=
    .mk (.keep rfl rfl <| .keep rfl hmac .nil) (.swap ..)
  have husers : EnbMac.Loosened ((⟨0, [⟨70, m⟩]⟩ : EnbMac).toTree : Tree Float)
      (.map [("v", .list []), ("ue_mac_stats",
        .list [.map [("mac_stats", .map [("phr", .int (-3))]), ("rnti", .nat 70)]])]) :=
    .mk (.remove rfl rfl <| .insert (by decide) <| .keep rfl (.mk (.cons huser .nil)) .nil) (.refl _)
  have hreport : Loosened (r.toTree : Tree Float) (.map [("mac_stats", .list [.map [("v", .list []),
      ("ue_mac_stats", .list [.map [("mac_stats", .map [("phr", .int (-3))]), ("rnti", .nat 70)]])]])]) :=
    .mk (.remove rfl rfl <| .keep rfl (.mk (.cons husers .nil)) .nil) (.refl _)
  have hpath : isYaml "stats.json" = false := by decide +kernel
  exact ⟨hpath, (parse_of_loosened r hpath).1 _ hreport _ (by with_unfolding_all rfl)⟩

end StatsReport

end RanSlicing
